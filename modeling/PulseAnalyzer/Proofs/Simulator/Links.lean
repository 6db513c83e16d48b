import PulseAnalyzer.Proofs.Wire.RoundTrip
import PulseAnalyzer.Simulator.Link

set_option autoImplicit false

namespace PulseAnalyzer

namespace Table

variable {κ α : Type} [DecidableEq κ]

theorem erase_absent (key : κ) (table : Table κ α) (absent : lookup key table = none) : erase key table = table := by
  induction table with
  | nil => rfl
  | cons entry rest ih =>
      rcases entry with ⟨k, value⟩
      by_cases same : key = k
      · simp [lookup, same] at absent
      · rw [lookup, if_neg same] at absent
        have other : k ≠ key := fun h => same h.symm
        simp only [erase, List.filter_cons, other, ne_eq, not_false_eq_true, decide_true, if_true] at ih ⊢
        rw [ih absent]

theorem erase_put (key : κ) (value : α) (table : Table κ α) : erase key (put key value table) = erase key table := by
  simp [erase, put]

end Table

namespace SimulatedLink

def passed (l : SimulatedLink) (operation : String) : SimulatedLink :=
  { l with injection := (l.injection.check operation).2 }

def handedOut (l : SimulatedLink) (device : Nat) : SimulatedLink :=
  { l.passed "open" with
    handles := Table.put l.nextHandle device l.handles
    nextHandle := l.nextHandle + 1
    acquired := l.acquired + 1 }

def noted (l : SimulatedLink) (data : Bytes) : SimulatedLink :=
  { l.passed "write" with frames := l.frames.push data }

def fetched (l : SimulatedLink) (n : Nat) : SimulatedLink :=
  { l.passed "read" with pending := Table.erase n l.pending }

def dropped (l : SimulatedLink) (n : Nat) : SimulatedLink :=
  { l with
    handles := Table.erase n l.handles
    pending := Table.erase n l.pending
    released := l.released + 1 }

-- A handle is released before the planned failures are looked at.
def handedBack (l : SimulatedLink) (n : Nat) : SimulatedLink := (l.dropped n).passed "close"

inductive Effect (l : SimulatedLink) : (call : Link.Call) → call.Answer → SimulatedLink → Prop where
  | refused (call : Link.Call) (fault : LinkFault) (operation : String) : Effect l call (.error fault) (l.passed operation)
  | acquired (device : Nat) : Effect l (.acquire device) (.ok ⟨l.nextHandle⟩) (l.handedOut device)
  | rejected (handle : Handle) (address : Nat) (data : Bytes) (fault : LinkFault) :
      Effect l (.write handle address data) (.error fault) (l.noted data)
  | served (handle : Handle) (address : Nat) (data : Bytes) (device : Nat) (opcode : UInt8) (arguments : Bytes)
      (held : Table.lookup handle.number l.handles = some device) :
      Effect l (.write handle address data) (.ok ()) ((l.noted data).serve handle.number device opcode arguments)
  | fetched (handle : Handle) (address size : Nat) (response : Bytes) :
      Effect l (.read handle address size) (.ok response) (l.fetched handle.number)
  | unheld (handle : Handle) (fault : LinkFault) : Effect l (.release handle) (.error fault) l
  | released (handle : Handle) (answer : Except LinkFault Unit) :
      Effect l (.release handle) answer (l.handedBack handle.number)

theorem enter_cases (l : SimulatedLink) (operation : String) :
    (∃ fault, l.enter operation = (.error fault, l.passed operation)) ∨
      l.enter operation = (.ok (), l.passed operation) := by
  rw [enter, passed]
  cases (l.injection.check operation).1 with
  | error code => exact .inl ⟨.status code, rfl⟩
  | ok done => exact .inr rfl

theorem acquire_effect (l : SimulatedLink) (device : Nat) :
    l.Effect (.acquire device) (l.acquire device).1 (l.acquire device).2 := by
  rcases l.enter_cases "open" with ⟨fault, entered⟩ | entered
  · simp only [acquire, entered]
    exact .refused _ fault "open"
  · simp only [acquire, entered]
    split
    · exact .refused _ _ "open"
    · exact .acquired device

theorem write_effect (l : SimulatedLink) (handle : Handle) (address : Nat) (data : Bytes) :
    l.Effect (.write handle address data) (l.write handle address data).1 (l.write handle address data).2 := by
  rcases l.enter_cases "write" with ⟨fault, entered⟩ | entered
  · simp only [write, entered]
    exact .refused _ fault "write"
  · simp only [write, entered]
    split
    · exact .refused _ _ "write"
    · split
      · exact .refused _ _ "write"
      · rename_i device held
        split
        · exact .rejected handle address data _
        · rename_i opcode arguments _
          exact .served handle address data device opcode arguments held

theorem read_effect (l : SimulatedLink) (handle : Handle) (address size : Nat) :
    l.Effect (.read handle address size) (l.read handle address size).1 (l.read handle address size).2 := by
  rcases l.enter_cases "read" with ⟨fault, entered⟩ | entered
  · simp only [read, entered]
    exact .refused _ fault "read"
  · simp only [read, entered]
    split
    · exact .refused _ _ "read"
    · split
      · exact .refused _ _ "read"
      · split
        · exact .refused _ _ "read"
        · exact .fetched handle address size _

theorem release_effect (l : SimulatedLink) (handle : Handle) :
    l.Effect (.release handle) (l.release handle).1 (l.release handle).2 := by
  unfold release
  split
  · exact .unheld handle _
  · exact .released handle _

theorem answer_effect (l : SimulatedLink) (call : Link.Call) : l.Effect call (l.answer call).1 (l.answer call).2 := by
  cases call with
  | acquire device => exact l.acquire_effect device
  | write handle address data => exact l.write_effect handle address data
  | read handle address size => exact l.read_effect handle address size
  | release handle => exact l.release_effect handle

inductive Reached : SimulatedLink → Prop where
  | make (devices : Nat) : Reached (.make devices)
  | registers (l : SimulatedLink) (device : Nat) (r : Registers) (before : Reached l) : Reached (l.setRegisters device r)
  | injection (l : SimulatedLink) (i : Injection) (before : Reached l) : Reached { l with injection := i }
  | corruption (l : SimulatedLink) (index : Option Nat) (before : Reached l) : Reached { l with corruptNext := index }
  | asked (l : SimulatedLink) (call : Link.Call) (before : Reached l) : Reached (l.answer call).2

def Numbered (l : SimulatedLink) : Prop :=
  ∀ n, l.nextHandle ≤ n → Table.lookup n l.handles = none ∧ Table.lookup n l.pending = none

theorem erased_unused {α : Type} (n m : Nat) (table : Table Nat α) (absent : Table.lookup m table = none) :
    Table.lookup m (Table.erase n table) = none := by
  rw [Table.lookup_erase, absent, ite_self]

theorem effect_numbered (l m : SimulatedLink) (call : Link.Call) (answer : call.Answer) (effect : l.Effect call answer m)
    (numbered : l.Numbered) : m.Numbered := by
  cases effect with
  | refused | rejected => exact numbered
  | unheld => exact numbered
  | acquired device =>
      intro n fresh
      have later : l.nextHandle + 1 ≤ n := fresh
      have other : n ≠ l.nextHandle := by omega
      have before := numbered n (by omega)
      refine ⟨?_, before.2⟩
      rw [handedOut, Table.lookup_put, if_neg other]
      exact before.1
  | served handle _ data device opcode arguments held =>
      intro n fresh
      have before := numbered n fresh
      have other : n ≠ handle.number := by
        rintro rfl
        rw [before.1] at held
        cases held
      refine ⟨before.1, ?_⟩
      rw [serve, Table.lookup_put, if_neg other]
      exact before.2
  | fetched =>
      intro n fresh
      exact ⟨(numbered n fresh).1, erased_unused _ n _ (numbered n fresh).2⟩
  | released =>
      intro n fresh
      exact ⟨erased_unused _ n _ (numbered n fresh).1, erased_unused _ n _ (numbered n fresh).2⟩

theorem reached_numbered (l : SimulatedLink) (reached : l.Reached) : l.Numbered := by
  induction reached with
  | make devices => exact fun n _ => ⟨rfl, rfl⟩
  | registers l device r _ ih => exact ih
  | injection l i _ ih => exact ih
  | corruption l index _ ih => exact ih
  | asked l call _ ih => exact effect_numbered l _ call _ (l.answer_effect call) ih

-- No failure is planned, and no response is to be spoilt.
structure Quiet (l : SimulatedLink) : Prop where
  unfailing : l.injection.scenarios = []
  unspoilt : l.corruptNext = none

theorem effect_quiet (l m : SimulatedLink) (call : Link.Call) (answer : call.Answer) (effect : l.Effect call answer m)
    (quiet : l.Quiet) : m.Quiet := by
  cases effect with
  | served => exact ⟨quiet.unfailing, rfl⟩
  | refused | acquired | rejected | fetched | unheld | released => exact ⟨quiet.unfailing, quiet.unspoilt⟩

section quiet
variable (l : SimulatedLink) (quiet : l.Quiet)
include quiet

theorem enter_quiet (operation : String) : l.enter operation = (.ok (), l.passed operation) := by
  have unfailing := quiet.unfailing
  have passes : (l.injection.check operation).1 = .ok () := by
    simp only [Injection.check, unfailing, List.filter_nil, Injection.consult]
  simp only [enter, passed, passes]
  rfl

theorem acquire_quiet (device : Nat) (known : device < l.devices) :
    l.answer (.acquire device) = (.ok ⟨l.nextHandle⟩, l.handedOut device) := by
  have present : ¬ (l.passed "open").devices ≤ device := Nat.not_le_of_lt known
  simp only [answer, acquire, l.enter_quiet quiet, if_neg present]
  rfl

theorem acquire_unknown (device : Nat) (unknown : l.devices ≤ device) :
    l.answer (.acquire device) = (.error (.unknownDevice device), l.passed "open") := by
  have absent : (l.passed "open").devices ≤ device := unknown
  simp only [answer, acquire, l.enter_quiet quiet, if_pos absent]

theorem write_quiet (n device : Nat) (opcode : UInt8) (arguments : Bytes)
    (held : Table.lookup n l.handles = some device) :
    l.answer (.write ⟨n⟩ Link.tunnel (Frame.encode (opcode :: arguments))) =
      (.ok (), (l.noted (Frame.encode (opcode :: arguments))).serve n device opcode arguments) := by
  have here : Table.lookup n (l.passed "write").handles = some device := held
  simp only [answer, write, l.enter_quiet quiet, here, decode_encode, ne_eq, not_true_eq_false, if_false]
  rfl

theorem read_quiet (n device size : Nat) (response : Bytes) (held : Table.lookup n l.handles = some device)
    (waiting : Table.lookup n l.pending = some response) :
    l.answer (.read ⟨n⟩ Link.tunnel size) = (.ok (resize response size), l.fetched n) := by
  have here : Table.lookup n (l.passed "read").handles = some device := held
  have there : Table.lookup n (l.passed "read").pending = some response := waiting
  simp only [answer, read, l.enter_quiet quiet, here, there, ne_eq, not_true_eq_false, if_false]
  rfl

theorem release_quiet (n device : Nat) (held : Table.lookup n l.handles = some device) :
    l.answer (.release ⟨n⟩) = (.ok (), l.handedBack n) := by
  simp only [answer, release, held]
  exact enter_quiet (l.dropped n) ⟨quiet.unfailing, quiet.unspoilt⟩ "close"

end quiet

end SimulatedLink
end PulseAnalyzer
