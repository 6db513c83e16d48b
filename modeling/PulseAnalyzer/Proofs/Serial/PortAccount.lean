import PulseAnalyzer.Proofs.Simulator.HandleAccount
import PulseAnalyzer.Serial.PortLink

set_option autoImplicit false

namespace PulseAnalyzer

namespace Table

variable {κ α : Type} [DecidableEq κ]

theorem key_missing (key : κ) (table : Table κ α) (missing : key ∉ keys table) : lookup key table = none := by
  cases found : lookup key table with
  | none => rfl
  | some value => exact absurd (key_present key value table found) missing

theorem matches_erase (key : κ) (holds : α → Bool) (table : Table κ α) (distinct : (keys table).Nodup) :
    ((erase key table).filter fun entry => holds entry.2).length + ((lookup key table).any holds).toNat =
      (table.filter fun entry => holds entry.2).length := by
  induction table with
  | nil => rfl
  | cons entry rest ih =>
      rcases entry with ⟨k, value⟩
      obtain ⟨missing, later⟩ := List.nodup_cons.mp distinct
      by_cases same : key = k
      · subst same
        have gone : erase key ((key, value) :: rest) = rest := by
          have absent := erase_absent key rest (key_missing key rest missing)
          simpa [erase] using absent
        rw [gone, lookup, if_pos rfl, List.filter_cons]
        cases kind : holds value <;> simp [kind]
      · have kept : erase key ((k, value) :: rest) = (k, value) :: erase key rest := by simp [erase, Ne.symm same]
        rw [kept, lookup, if_neg same, List.filter_cons, List.filter_cons]
        have counted := ih later
        cases holds value with
        | false => simpa using counted
        | true =>
            simp only [if_true, List.length_cons]
            omega

theorem matches_put (key : κ) (value : α) (holds : α → Bool) (table : Table κ α) (distinct : (keys table).Nodup) :
    ((put key value table).filter fun entry => holds entry.2).length + ((lookup key table).any holds).toNat =
      (table.filter fun entry => holds entry.2).length + (holds value).toNat := by
  have counted := matches_erase key holds table distinct
  rw [put, List.filter_cons]
  cases holds value with
  | false => simpa using counted
  | true =>
      simp only [if_true, List.length_cons, Bool.toNat_true]
      omega

end Table

namespace PortLink

def pipeOf (l : PortLink) (h : Handle) : Pipe := (Table.lookup h.number l.pipes).getD ⟨[], [], false, true⟩

theorem pipe_put (l : PortLink) (h other : Handle) (p : Pipe) (next : Nat) :
    pipeOf { l with pipes := Table.put h.number p l.pipes, nextHandle := next } other =
      if other = h then p else l.pipeOf other := by
  rcases h with ⟨n⟩
  rcases other with ⟨m⟩
  by_cases same : m = n <;> simp [pipeOf, Table.lookup_put, same]

theorem pipe_set (l : PortLink) (h other : Handle) (p : Pipe) :
    (l.setPipe h p).pipeOf other = if other = h then p else l.pipeOf other :=
  l.pipe_put h other p l.nextHandle

theorem pipe_attach (l : PortLink) (other : Handle) :
    l.attach.2.pipeOf other = if other = l.attach.1 then ⟨[], [], true, true⟩ else l.pipeOf other :=
  l.pipe_put l.attach.1 other ⟨[], [], true, true⟩ (l.nextHandle + 1)

theorem pipe_found (l : PortLink) (h : Handle) (p : Pipe) (found : Table.lookup h.number l.pipes = some p) :
    l.pipeOf h = p := by
  simp [pipeOf, found]

theorem open_count_put (l : PortLink) (h : Handle) (p : Pipe) (next : Nat) (distinct : (Table.keys l.pipes).Nodup) :
    openCount { l with pipes := Table.put h.number p l.pipes, nextHandle := next } + (l.pipeOf h).hostOpen.toNat =
      l.openCount + p.hostOpen.toNat := by
  have counted := Table.matches_put h.number p Pipe.hostOpen l.pipes distinct
  have before : (l.pipeOf h).hostOpen = (Table.lookup h.number l.pipes).any Pipe.hostOpen := by
    cases found : Table.lookup h.number l.pipes <;> simp [pipeOf, found]
  rw [before]
  exact counted

-- The pipes of a link are those of the handles attached so far, and they are open until they are closed.
structure Listed (l : PortLink) (attached closed : List Handle) : Prop where
  distinct : (Table.keys l.pipes).Nodup
  numbered : attached = (List.range' 1 attached.length).map Handle.mk
  next : l.nextHandle = attached.length + 1
  known : ∀ h, (Table.lookup h.number l.pipes).isSome ↔ h ∈ attached
  owned : ∀ h ∈ closed, h ∈ attached
  opened : ∀ h, (l.pipeOf h).hostOpen = true ↔ h ∈ attached ∧ h ∉ closed
  counted : l.openCount + closed.length = attached.length

section listed
variable (l : PortLink) (attached closed : List Handle) (listed : Listed l attached closed)
include listed

theorem put_known (h : Handle) (p q : Pipe) (found : Table.lookup h.number l.pipes = some p) (other : Handle) :
    (Table.lookup other.number (l.setPipe h q).pipes).isSome ↔ other ∈ attached := by
  rw [← listed.known other, setPipe, Table.lookup_put]
  by_cases equal : other.number = h.number <;> simp [equal, found]

theorem kept_listed (h : Handle) (p q : Pipe) (found : Table.lookup h.number l.pipes = some p)
    (kept : q.hostOpen = p.hostOpen) : Listed (l.setPipe h q) attached closed := by
  have here := l.pipe_found h p found
  have count : (l.setPipe h q).openCount = l.openCount := by
    have put := l.open_count_put h q l.nextHandle listed.distinct
    rw [here, kept] at put
    exact Nat.add_right_cancel put
  refine ⟨Table.keys_put_nodup _ _ _ listed.distinct, listed.numbered, listed.next,
    put_known l attached closed listed h p q found, listed.owned, fun other => ?_, by rw [count]; exact listed.counted⟩
  rw [pipe_set, ← listed.opened other]
  by_cases equal : other = h <;> simp [equal, kept, here]

theorem closed_listed (h : Handle) (p q : Pipe) (found : Table.lookup h.number l.pipes = some p)
    (was : p.hostOpen = true) (now : q.hostOpen = false) : Listed (l.setPipe h q) attached (closed ++ [h]) := by
  have here := l.pipe_found h p found
  have count : (l.setPipe h q).openCount + 1 = l.openCount := by
    have put := l.open_count_put h q l.nextHandle listed.distinct
    rw [here, was, now] at put
    exact put
  refine ⟨Table.keys_put_nodup _ _ _ listed.distinct, listed.numbered, listed.next,
    put_known l attached closed listed h p q found, fun other member => ?_, fun other => ?_, ?_⟩
  · rcases List.mem_append.mp member with earlier | last
    · exact listed.owned other earlier
    · cases List.mem_singleton.mp last
      exact (listed.known h).mp (by simp [found])
  · rw [pipe_set]
    by_cases equal : other = h
    · simp [equal, now]
    · simp [equal, listed.opened other]
  · have before := listed.counted
    rw [List.length_append, List.length_singleton]
    omega

theorem next_unattached : l.attach.1 ∉ attached := by
  intro member
  rw [listed.numbered] at member
  obtain ⟨n, within, same⟩ := List.mem_map.mp member
  have number : n = l.nextHandle := congrArg Handle.number same
  have bound := (List.mem_range'_1.mp within).2
  have next := listed.next
  omega

theorem next_fresh : l.pipeOf l.attach.1 = ⟨[], [], false, true⟩ := by
  have absent := mt (listed.known l.attach.1).mp (next_unattached l attached closed listed)
  have unused : Table.lookup l.attach.1.number l.pipes = none := by simpa using absent
  simp [pipeOf, unused]

theorem attached_listed : Listed l.attach.2 (attached ++ [l.attach.1]) closed := by
  have fresh := next_unattached l attached closed listed
  have here := next_fresh l attached closed listed
  have next := listed.next
  refine ⟨Table.keys_put_nodup _ _ _ listed.distinct, ?_, ?_, fun other => ?_,
    fun other member => List.mem_append_left _ (listed.owned other member), fun other => ?_, ?_⟩
  · have last : l.attach.1 = ⟨1 + 1 * attached.length⟩ := congrArg Handle.mk (by omega)
    rw [List.length_append, List.length_singleton, List.range'_concat, List.map_append, ← listed.numbered, last]
    rfl
  · rw [List.length_append, List.length_singleton, ← next]
    rfl
  · have put : Table.lookup other.number l.attach.2.pipes =
        if other.number = l.nextHandle then some ⟨[], [], true, true⟩ else Table.lookup other.number l.pipes :=
      Table.lookup_put _ _ _ _
    have number : other.number = l.nextHandle ↔ other = l.attach.1 := ⟨congrArg Handle.mk, congrArg Handle.number⟩
    rw [put, List.mem_append, ← listed.known other, List.mem_singleton, ← number]
    by_cases equal : other.number = l.nextHandle <;> simp [equal]
  · have unclosed : l.attach.1 ∉ closed := fun member => fresh (listed.owned _ member)
    rw [pipe_attach]
    by_cases equal : other = l.attach.1
    · simp [equal, unclosed]
    · simp [equal, listed.opened other]
  · have count : l.attach.2.openCount = l.openCount + 1 := by
      have put := l.open_count_put l.attach.1 ⟨[], [], true, true⟩ (l.nextHandle + 1) listed.distinct
      rw [here] at put
      exact put
    have before := listed.counted
    rw [List.length_append, List.length_singleton]
    omega

end listed

theorem pipe_cases (l : PortLink) (h : Handle) :
    (l.pipe? h = none ∧ (l.pipeOf h).hostOpen = false) ∨
    ∃ p, l.pipe? h = some p ∧ Table.lookup h.number l.pipes = some p ∧ p.hostOpen = true := by
  cases found : Table.lookup h.number l.pipes with
  | none => exact .inl (by simp [pipe?, pipeOf, found])
  | some p =>
      by_cases hostOpen : p.hostOpen = true
      · exact .inr ⟨p, by simp [pipe?, found, hostOpen]⟩
      · exact .inl (by simp [pipe?, pipeOf, found, hostOpen])

theorem refused_shut (l : PortLink) (h : Handle) (shut : l.pipe? h = none) (data : Bytes) (size : Nat)
    (during : List (Duration × Bytes)) :
    l.write h data = (.error (.notOpen h), l) ∧ l.readDuring h size during = (.error (.notOpen h), ⟨0⟩, l) ∧
      l.release h = (.error (.notOpen h), l) := by
  simp [write, readDuring, release, shut]

section found
variable (l : PortLink) (h : Handle) (p : Pipe)

theorem write_open (data : Bytes) (here : l.pipe? h = some p) (deviceOpen : p.deviceOpen = true) :
    l.write h data = (.ok (), l.setPipe h { p with toDevice := p.toDevice ++ data }) := by
  simp only [write, here]
  rw [if_pos (.inl deviceOpen)]

theorem read_open (size : Nat) (during : List (Duration × Bytes)) (here : l.pipe? h = some p)
    (deviceOpen : p.deviceOpen = true) :
    let reading := awaitBytes size l.patience p.toHost ⟨0⟩ during
    l.readDuring h size during = (reading.result, reading.elapsed, l.setPipe h { p with toHost := reading.left }) := by
  simp only [readDuring, here, readPipe]
  rw [if_pos (.inr deviceOpen)]

theorem release_open (here : l.pipe? h = some p) : l.release h = (.ok (), l.setPipe h { p with hostOpen := false }) := by
  simp only [release, here]

theorem device_write_open (data : Bytes) (found : Table.lookup h.number l.pipes = some p)
    (deviceOpen : p.deviceOpen = true) :
    l.deviceWrite h data =
      if p.hostOpen ∨ data = [] then (true, l.setPipe h { p with toHost := p.toHost ++ data }) else (false, l) := by
  have here : (Table.lookup h.number l.pipes).filter Pipe.deviceOpen = some p := by simp [found, deviceOpen]
  simp only [deviceWrite, here]

theorem device_read_open (size : Nat) (found : Table.lookup h.number l.pipes = some p)
    (deviceOpen : p.deviceOpen = true) :
    l.deviceRead h size =
      if size ≤ p.toDevice.length then
        (some (p.toDevice.take size), l.setPipe h { p with toDevice := p.toDevice.drop size })
      else (none, l.setPipe h { p with toDevice := [] }) := by
  have here : (Table.lookup h.number l.pipes).filter Pipe.deviceOpen = some p := by simp [found, deviceOpen]
  simp only [deviceRead, here]

end found

theorem await_bytes_cases (size : Nat) (patience waited : Duration) (arrived : Bytes)
    (during : List (Duration × Bytes)) :
    (awaitBytes size patience arrived waited during).result = .error (.timedOut size patience) ∨
    ∃ bytes, (awaitBytes size patience arrived waited during).result = .ok bytes ∧ bytes.length = size ∧
      arrived ++ during.flatMap Prod.snd = bytes ++ (awaitBytes size patience arrived waited during).left := by
  induction during generalizing arrived waited with
  | nil =>
      by_cases enough : size ≤ arrived.length
      · exact .inr ⟨arrived.take size, by simp [awaitBytes, enough]⟩
      · exact .inl (by simp [awaitBytes, enough])
  | cons entry rest ih =>
      rcases entry with ⟨gap, bytes⟩
      by_cases enough : size ≤ arrived.length
      · refine .inr ⟨arrived.take size, ?_⟩
        simp [awaitBytes, enough, ← List.append_assoc]
      · by_cases late : patience.nanos < waited.nanos + gap.nanos
        · exact .inl (by simp [awaitBytes, enough, late])
        · have later := ih ⟨waited.nanos + gap.nanos⟩ (arrived ++ bytes)
          simpa [awaitBytes, enough, late] using later

theorem await_bytes_ready (size : Nat) (patience waited : Duration) (arrived : Bytes) (during : List (Duration × Bytes))
    (enough : size ≤ arrived.length) :
    (awaitBytes size patience arrived waited during).result = .ok (arrived.take size) := by
  cases during <;> simp [awaitBytes, enough]

end PortLink
end PulseAnalyzer
