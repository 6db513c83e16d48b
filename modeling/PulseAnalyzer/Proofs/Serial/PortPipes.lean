import PulseAnalyzer.Proofs.Serial.PortAccount

set_option autoImplicit false

namespace PulseAnalyzer

namespace PortLink

inductive Step where
  | attach
  | write (handle : Handle) (data : Bytes)
  | read (handle : Handle) (size : Nat) (during : List (Duration × Bytes))
  | release (handle : Handle)
  | send (handle : Handle) (data : Bytes)
  | receive (handle : Handle) (size : Nat)

inductive Deed where
  | attach (handle : Handle)
  | write (handle : Handle) (data : Bytes) (answer : Except LinkFault Unit)
  | read (handle : Handle) (size : Nat) (during : List (Duration × Bytes)) (answer : Except LinkFault Bytes)
  | release (handle : Handle) (answer : Except LinkFault Unit)
  | send (handle : Handle) (data : Bytes) (accepted : Bool)
  | receive (handle : Handle) (size : Nat) (answer : Option Bytes)

def perform (l : PortLink) : Step → Deed × PortLink
  | .attach => (.attach l.attach.1, l.attach.2)
  | .write h data => (.write h data (l.write h data).1, (l.write h data).2)
  | .read h size during => (.read h size during (l.readDuring h size during).1, (l.readDuring h size during).2.2)
  | .release h => (.release h (l.release h).1, (l.release h).2)
  | .send h data => (.send h data (l.deviceWrite h data).1, (l.deviceWrite h data).2)
  | .receive h size => (.receive h size (l.deviceRead h size).1, (l.deviceRead h size).2)

def run (l : PortLink) : List Step → List Deed × PortLink
  | [] => ([], l)
  | step :: rest => ((l.perform step).1 :: ((l.perform step).2.run rest).1, ((l.perform step).2.run rest).2)

namespace Deed

def attached : Deed → List Handle
  | .attach h => [h]
  | _ => []

def closed : Deed → List Handle
  | .release h (.ok _) => [h]
  | _ => []

def written (h : Handle) : Deed → Bytes
  | .write k data (.ok _) => if k = h then data else []
  | _ => []

def received (h : Handle) : Deed → Bytes
  | .receive k _ (some bytes) => if k = h then bytes else []
  | _ => []

def due (h : Handle) : Deed → Nat
  | .receive k size (some _) => if k = h then size else 0
  | _ => 0

-- What a device end sends while a read waits for it counts as well.
def sent (h : Handle) : Deed → Bytes
  | .send k data true => if k = h then data else []
  | .read _ _ _ (.error (.notOpen _)) => []
  | .read k _ during _ => if k = h then during.flatMap Prod.snd else []
  | _ => []

def gotten (h : Handle) : Deed → Bytes
  | .read k _ _ (.ok bytes) => if k = h then bytes else []
  | _ => []

-- Reads that are refused, or run out of time, are left out.
def wanted (h : Handle) : Deed → Nat
  | .read k size _ (.ok _) => if k = h then size else 0
  | _ => 0

def fellShort (h : Handle) : Deed → Bool
  | .receive k _ none => k = h
  | _ => false

def ranOut (h : Handle) : Deed → Bool
  | .read k _ _ (.error (.timedOut _ _)) => k = h
  | _ => false

structure Silent (h : Handle) (d : Deed) : Prop where
  written : d.written h = []
  received : d.received h = []
  due : d.due h = 0
  sent : d.sent h = []
  gotten : d.gotten h = []
  wanted : d.wanted h = 0

end Deed

def total (count : Deed → Nat) : List Deed → Nat
  | [] => 0
  | d :: rest => count d + total count rest

theorem total_append_one (count : Deed → Nat) (past : List Deed) (d : Deed) :
    total count (past ++ [d]) = total count past + count d := by
  induction past with
  | nil => simp [total]
  | cons first rest ih => simp [total, ih, Nat.add_assoc]

-- What went into a queue, in order, is what came out of it and what is left.
structure Carried (entered taken left : Bytes) (size : Nat) : Prop where
  conserved : taken ++ left = entered
  counted : taken.length = size

theorem carried_step (entered taken left more bytes rest : Bytes) (size fewer : Nat)
    (before : Carried entered taken left size) (split : left ++ more = bytes ++ rest) (counted : bytes.length = fewer) :
    Carried (entered ++ more) (taken ++ bytes) rest (size + fewer) := by
  refine ⟨?_, by rw [List.length_append, before.counted, counted]⟩
  rw [List.append_assoc, ← split, ← List.append_assoc, before.conserved]

theorem carried_taken (entered taken left : Bytes) (size : Nat) (carried : Carried entered taken left size) :
    taken = entered.take size ∧ size ≤ entered.length ∧ left = entered.drop size := by
  obtain ⟨conserved, counted⟩ := carried
  subst conserved counted
  simp

structure Queued (p : Pipe) (past : List Deed) (h : Handle) : Prop where
  deviceOpen : p.deviceOpen = true
  toDevice : (∀ d ∈ past, d.fellShort h = false) →
    Carried (past.flatMap (Deed.written h)) (past.flatMap (Deed.received h)) p.toDevice (total (Deed.due h) past)
  toHost : (∀ d ∈ past, d.ranOut h = false) →
    Carried (past.flatMap (Deed.sent h)) (past.flatMap (Deed.gotten h)) p.toHost (total (Deed.wanted h) past)

structure Moves (h : Handle) (p : Pipe) (d : Deed) (q : Pipe) : Prop where
  deviceOpen : q.deviceOpen = p.deviceOpen
  toDevice : d.fellShort h = false →
    p.toDevice ++ d.written h = d.received h ++ q.toDevice ∧ (d.received h).length = d.due h
  toHost : d.ranOut h = false →
    p.toHost ++ d.sent h = d.gotten h ++ q.toHost ∧ (d.gotten h).length = d.wanted h

theorem moves_queued (p q : Pipe) (past : List Deed) (d : Deed) (h : Handle) (moves : Moves h p d q)
    (queued : Queued p past h) : Queued q (past ++ [d]) h := by
  refine ⟨moves.deviceOpen.trans queued.deviceOpen, fun whole => ?_, fun whole => ?_⟩
  · have before := queued.toDevice fun other member => whole other (List.mem_append_left _ member)
    obtain ⟨split, counted⟩ := moves.toDevice (whole d (by simp))
    simpa [total_append_one] using carried_step _ _ _ _ _ _ _ _ before split counted
  · have before := queued.toHost fun other member => whole other (List.mem_append_left _ member)
    obtain ⟨split, counted⟩ := moves.toHost (whole d (by simp))
    simpa [total_append_one] using carried_step _ _ _ _ _ _ _ _ before split counted

theorem silent_queued (p : Pipe) (past : List Deed) (d : Deed) (h : Handle) (silent : d.Silent h)
    (queued : Queued p past h) : Queued p (past ++ [d]) h := by
  refine moves_queued p p past d h ⟨rfl, fun _ => ?_, fun _ => ?_⟩ queued
  · simp [silent.written, silent.received, silent.due]
  · simp [silent.sent, silent.gotten, silent.wanted]

inductive Change (h : Handle) (p : Pipe) : Deed → Pipe → Prop where
  | written (data : Bytes) : Change h p (.write h data (.ok ())) { p with toDevice := p.toDevice ++ data }
  | gotten (during : List (Duration × Bytes)) (bytes left : Bytes)
      (split : p.toHost ++ during.flatMap Prod.snd = bytes ++ left) :
      Change h p (.read h bytes.length during (.ok bytes)) { p with toHost := left }
  | ranOut (size : Nat) (during : List (Duration × Bytes)) (patience : Duration) (left : Bytes) :
      Change h p (.read h size during (.error (.timedOut size patience))) { p with toHost := left }
  | released (hostOpen : p.hostOpen = true) : Change h p (.release h (.ok ())) { p with hostOpen := false }
  | sent (data : Bytes) : Change h p (.send h data true) { p with toHost := p.toHost ++ data }
  | received (bytes left : Bytes) (split : p.toDevice = bytes ++ left) :
      Change h p (.receive h bytes.length (some bytes)) { p with toDevice := left }
  | fellShort (size : Nat) : Change h p (.receive h size none) { p with toDevice := [] }

theorem change_moves (h : Handle) (p q : Pipe) (d : Deed) (change : Change h p d q) : Moves h p d q := by
  cases change with
  | written | released | sent =>
      refine ⟨rfl, fun _ => ?_, fun _ => ?_⟩
      · simp [Deed.written, Deed.received, Deed.due]
      · simp [Deed.sent, Deed.gotten, Deed.wanted]
  | gotten during bytes left split =>
      refine ⟨rfl, fun _ => ?_, fun _ => ?_⟩
      · simp [Deed.written, Deed.received, Deed.due]
      · simp [Deed.sent, Deed.gotten, Deed.wanted, split]
  | received bytes left split =>
      refine ⟨rfl, fun _ => ?_, fun _ => ?_⟩
      · simp [Deed.written, Deed.received, Deed.due, split]
      · simp [Deed.sent, Deed.gotten, Deed.wanted]
  | ranOut =>
      refine ⟨rfl, fun _ => ?_, fun timely => ?_⟩
      · simp [Deed.written, Deed.received, Deed.due]
      · simp [Deed.ranOut] at timely
  | fellShort =>
      refine ⟨rfl, fun whole => ?_, fun _ => ?_⟩
      · simp [Deed.fellShort] at whole
      · simp [Deed.sent, Deed.gotten, Deed.wanted]

theorem change_elsewhere (h other : Handle) (p q : Pipe) (d : Deed) (change : Change h p d q) (differs : h ≠ other) :
    d.Silent other := by
  cases change <;>
    exact ⟨by simp [Deed.written, differs], by simp [Deed.received, differs], by simp [Deed.due, differs],
      by simp [Deed.sent, differs], by simp [Deed.gotten, differs], by simp [Deed.wanted, differs]⟩

theorem change_opens (h : Handle) (p q : Pipe) (d : Deed) (change : Change h p d q) :
    d.attached = [] ∧
      (d.closed = [] ∧ q.hostOpen = p.hostOpen ∨ d.closed = [h] ∧ p.hostOpen = true ∧ q.hostOpen = false) := by
  cases change with
  | released hostOpen => exact ⟨rfl, .inr ⟨rfl, hostOpen, rfl⟩⟩
  | written | gotten | ranOut | sent | received | fellShort => exact ⟨rfl, .inl ⟨rfl, rfl⟩⟩

end PortLink
end PulseAnalyzer
