import PulseAnalyzer.Proofs.Serial.PortPipes

set_option autoImplicit false

namespace PulseAnalyzer

namespace PortLink

-- No step closes a device end, so that each of them is open however many steps there were.
structure Sound (l : PortLink) (past : List Deed) : Prop where
  listed : Listed l (past.flatMap Deed.attached) (past.flatMap Deed.closed)
  queued : ∀ h, Queued (l.pipeOf h) past h

theorem sound_make (ports : List String) (patience : Duration) : Sound (make ports patience) [] := by
  refine ⟨⟨List.nodup_nil, rfl, rfl, fun h => ?_, nofun, fun h => ?_, rfl⟩, fun h => ?_⟩
  · simp [make, Table.lookup]
  · simp [pipeOf, make, Table.lookup]
  · exact ⟨rfl, fun _ => ⟨rfl, rfl⟩, fun _ => ⟨rfl, rfl⟩⟩

inductive Outcome (l : PortLink) : Deed → PortLink → Prop where
  | attached : Outcome l (.attach l.attach.1) l.attach.2
  | idle (d : Deed) (unattached : d.attached = []) (unclosed : d.closed = []) (silent : ∀ h, d.Silent h) : Outcome l d l
  | changed (h : Handle) (p q : Pipe) (d : Deed) (found : Table.lookup h.number l.pipes = some p)
      (change : Change h p d q) : Outcome l d (l.setPipe h q)

theorem outcome_sound (l m : PortLink) (past : List Deed) (d : Deed) (outcome : Outcome l d m) (sound : Sound l past) :
    Sound m (past ++ [d]) := by
  obtain ⟨listed, queued⟩ := sound
  cases outcome with
  | attached =>
      refine ⟨by simpa [Deed.attached, Deed.closed] using attached_listed l _ _ listed, fun other => ?_⟩
      have silent : (Deed.attach l.attach.1).Silent other := ⟨rfl, rfl, rfl, rfl, rfl, rfl⟩
      have still := silent_queued _ past _ other silent (queued other)
      rw [pipe_attach]
      by_cases equal : other = l.attach.1
      · rw [equal, next_fresh l _ _ listed] at still
        rw [equal, if_pos rfl]
        exact ⟨still.deviceOpen, still.toDevice, still.toHost⟩
      · rw [if_neg equal]
        exact still
  | idle _ unattached unclosed silent =>
      refine ⟨by simpa [unattached, unclosed] using listed, fun other => ?_⟩
      exact silent_queued _ past d other (silent other) (queued other)
  | changed h p q _ found change =>
      obtain ⟨unattached, opens⟩ := change_opens h p q d change
      refine ⟨?_, fun other => ?_⟩
      · rcases opens with ⟨unclosed, kept⟩ | ⟨closes, was, now⟩
        · simpa [unattached, unclosed] using kept_listed l _ _ listed h p q found kept
        · simpa [unattached, closes] using closed_listed l _ _ listed h p q found was now
      · rw [pipe_set]
        by_cases equal : other = h
        · have before := queued h
          rw [l.pipe_found h p found] at before
          rw [equal, if_pos rfl]
          exact moves_queued p q past d h (change_moves h p q d change) before
        · rw [if_neg equal]
          exact silent_queued _ past d other (change_elsewhere h other p q d change (Ne.symm equal)) (queued other)

theorem perform_outcome (l : PortLink) (step : Step)
    (deviceOpen : ∀ (h : Handle) (p : Pipe), Table.lookup h.number l.pipes = some p → p.deviceOpen = true) :
    Outcome l (l.perform step).1 (l.perform step).2 := by
  cases step with
  | attach => exact .attached
  | write h data =>
      rcases l.pipe_cases h with ⟨shut, -⟩ | ⟨p, here, found, -⟩
      · rw [perform, (l.refused_shut h shut data 0 []).1]
        exact .idle _ rfl rfl fun _ => ⟨rfl, rfl, rfl, rfl, rfl, rfl⟩
      · rw [perform, l.write_open h p data here (deviceOpen h p found)]
        exact .changed h p _ _ found (.written data)
  | read h size during =>
      rcases l.pipe_cases h with ⟨shut, -⟩ | ⟨p, here, found, -⟩
      · rw [perform, (l.refused_shut h shut [] size during).2.1]
        exact .idle _ rfl rfl fun _ => ⟨rfl, rfl, rfl, rfl, rfl, rfl⟩
      · rw [perform, l.read_open h p size during here (deviceOpen h p found)]
        rcases await_bytes_cases size l.patience ⟨0⟩ p.toHost during with ranOut | ⟨bytes, got, counted, split⟩
        · rw [ranOut]
          exact .changed h p _ _ found (.ranOut size during l.patience _)
        · subst counted
          rw [got]
          exact .changed h p _ _ found (.gotten during bytes _ split)
  | release h =>
      rcases l.pipe_cases h with ⟨shut, -⟩ | ⟨p, here, found, hostOpen⟩
      · rw [perform, (l.refused_shut h shut [] 0 []).2.2]
        exact .idle _ rfl rfl fun _ => ⟨rfl, rfl, rfl, rfl, rfl, rfl⟩
      · rw [perform, l.release_open h p here]
        exact .changed h p _ _ found (.released hostOpen)
  | send h data =>
      cases found : Table.lookup h.number l.pipes with
      | none =>
          simp only [perform, deviceWrite, found, Option.filter_none]
          exact .idle _ rfl rfl fun _ => ⟨rfl, rfl, rfl, rfl, rfl, rfl⟩
      | some p =>
          rw [perform, l.device_write_open h p data found (deviceOpen h p found)]
          by_cases taken : p.hostOpen = true ∨ data = []
          · rw [if_pos taken]
            exact .changed h p _ _ found (.sent data)
          · rw [if_neg taken]
            exact .idle _ rfl rfl fun _ => ⟨rfl, rfl, rfl, rfl, rfl, rfl⟩
  | receive h size =>
      cases found : Table.lookup h.number l.pipes with
      | none =>
          simp only [perform, deviceRead, found, Option.filter_none]
          exact .idle _ rfl rfl fun _ => ⟨rfl, rfl, rfl, rfl, rfl, rfl⟩
      | some p =>
          rw [perform, l.device_read_open h p size found (deviceOpen h p found)]
          by_cases enough : size ≤ p.toDevice.length
          · rw [if_pos enough]
            have split : p.toDevice = p.toDevice.take size ++ p.toDevice.drop size := (List.take_append_drop size _).symm
            have change : Change h p (.receive h (p.toDevice.take size).length (some (p.toDevice.take size))) _ :=
              .received _ _ split
            rw [List.length_take_of_le enough] at change
            exact .changed h p _ _ found change
          · rw [if_neg enough]
            exact .changed h p _ _ found (.fellShort size)

theorem run_sound (l : PortLink) (past : List Deed) (steps : List Step) (sound : Sound l past) :
    Sound (l.run steps).2 (past ++ (l.run steps).1) := by
  induction steps generalizing l past with
  | nil => simpa [run] using sound
  | cons step rest ih =>
      have deviceOpen : ∀ (h : Handle) (p : Pipe), Table.lookup h.number l.pipes = some p → p.deviceOpen = true :=
        fun h p found => l.pipe_found h p found ▸ (sound.queued h).deviceOpen
      have stepped := outcome_sound l _ past _ (l.perform_outcome step deviceOpen) sound
      simpa [run] using ih (l.perform step).2 _ stepped

section sound
variable {l : PortLink} {past : List Deed} (sound : Sound l past)
include sound

theorem shut_pipe (h : Handle) (away : h ∉ past.flatMap Deed.attached ∨ h ∈ past.flatMap Deed.closed) : l.pipe? h = none := by
  rcases l.pipe_cases h with ⟨shut, -⟩ | ⟨p, -, found, hostOpen⟩
  · exact shut
  · rw [← l.pipe_found h p found, sound.listed.opened h] at hostOpen
    rcases away with unattached | gone
    · exact absurd hostOpen.1 unattached
    · exact absurd gone hostOpen.2

theorem open_pipe (h : Handle) (member : h ∈ past.flatMap Deed.attached) (unclosed : h ∉ past.flatMap Deed.closed) :
    l.pipe? h = some (l.pipeOf h) := by
  have hostOpen := (sound.listed.opened h).mpr ⟨member, unclosed⟩
  rcases l.pipe_cases h with ⟨-, shut⟩ | ⟨p, here, found, -⟩
  · rw [shut] at hostOpen
    cases hostOpen
  · rw [l.pipe_found h p found]
    exact here

theorem open_answers (h : Handle) (member : h ∈ past.flatMap Deed.attached) (unclosed : h ∉ past.flatMap Deed.closed)
    (data : Bytes) (size : Nat) (during : List (Duration × Bytes)) :
    (l.write h data).1 = .ok () ∧ (l.release h).1 = .ok () ∧
      ((l.readDuring h size during).1 = .error (.timedOut size l.patience) ∨
        ∃ bytes, (l.readDuring h size during).1 = .ok bytes ∧ bytes.length = size) := by
  have here := open_pipe sound h member unclosed
  have deviceOpen := (sound.queued h).deviceOpen
  rw [l.write_open h _ data here deviceOpen, l.release_open h _ here, l.read_open h _ size during here deviceOpen]
  refine ⟨rfl, rfl, ?_⟩
  rcases await_bytes_cases size l.patience ⟨0⟩ (l.pipeOf h).toHost during with ranOut | ⟨bytes, got, counted, -⟩
  · exact .inl ranOut
  · exact .inr ⟨bytes, got, counted⟩

theorem device_queue (h : Handle) (whole : ∀ d ∈ past, d.fellShort h = false) :
    let written := past.flatMap (Deed.written h)
    let due := total (Deed.due h) past
    past.flatMap (Deed.received h) = written.take due ∧ due ≤ written.length ∧
      (h ∈ past.flatMap Deed.attached → ∀ size, (l.deviceRead h size).1 =
        if due + size ≤ written.length then some ((written.drop due).take size) else none) := by
  intro written due
  obtain ⟨prefixed, within, left⟩ := carried_taken _ _ _ _ ((sound.queued h).toDevice whole)
  refine ⟨prefixed, within, fun member size => ?_⟩
  obtain ⟨p, found⟩ := Option.isSome_iff_exists.mp ((sound.listed.known h).mpr member)
  have deviceOpen := (sound.queued h).deviceOpen
  rw [l.pipe_found h p found] at left deviceOpen
  rw [l.device_read_open h p size found deviceOpen, left, List.length_drop]
  by_cases enough : total (Deed.due h) past + size ≤ (past.flatMap (Deed.written h)).length
  · rw [if_pos enough, if_pos (by omega)]
  · rw [if_neg enough, if_neg (by omega)]

theorem host_queue (h : Handle) (whole : ∀ d ∈ past, d.ranOut h = false) :
    let sent := past.flatMap (Deed.sent h)
    let wanted := total (Deed.wanted h) past
    past.flatMap (Deed.gotten h) = sent.take wanted ∧ wanted ≤ sent.length ∧
      (h ∈ past.flatMap Deed.attached → h ∉ past.flatMap Deed.closed → ∀ size during, wanted + size ≤ sent.length →
        (l.readDuring h size during).1 = .ok ((sent.drop wanted).take size)) := by
  intro sent wanted
  obtain ⟨prefixed, within, left⟩ := carried_taken _ _ _ _ ((sound.queued h).toHost whole)
  refine ⟨prefixed, within, fun member unclosed size during enough => ?_⟩
  have here := open_pipe sound h member unclosed
  have room : total (Deed.wanted h) past + size ≤ (past.flatMap (Deed.sent h)).length := enough
  rw [l.read_open h _ size during here (sound.queued h).deviceOpen, ← left]
  exact await_bytes_ready size l.patience ⟨0⟩ _ during (by rw [left, List.length_drop]; omega)

end sound

-- What came out at either end of a handle's pipe are the first bytes that went in at the other, as many as were asked
-- for in all, and the next one to ask goes on from there.
theorem ports_keep_queues (ports : List String) (patience : Duration) (steps : List Step) :
    let past := ((make ports patience).run steps).1
    let l := ((make ports patience).run steps).2
    let attached := past.flatMap Deed.attached
    let closed := past.flatMap Deed.closed
    attached = (List.range' 1 attached.length).map Handle.mk ∧
    l.openCount + closed.length = attached.length ∧
    (∀ h, h ∉ attached ∨ h ∈ closed → ∀ data size during,
      l.write h data = (.error (.notOpen h), l) ∧ l.readDuring h size during = (.error (.notOpen h), ⟨0⟩, l) ∧
        l.release h = (.error (.notOpen h), l)) ∧
    (∀ h ∈ attached, h ∉ closed → ∀ data size during,
      (l.write h data).1 = .ok () ∧ (l.release h).1 = .ok () ∧
      ((l.readDuring h size during).1 = .error (.timedOut size l.patience) ∨
        ∃ bytes, (l.readDuring h size during).1 = .ok bytes ∧ bytes.length = size)) ∧
    (∀ h, (∀ d ∈ past, d.fellShort h = false) →
      let written := past.flatMap (Deed.written h)
      let due := total (Deed.due h) past
      past.flatMap (Deed.received h) = written.take due ∧ due ≤ written.length ∧
      (h ∈ attached → ∀ size, (l.deviceRead h size).1 =
        if due + size ≤ written.length then some ((written.drop due).take size) else none)) ∧
    (∀ h, (∀ d ∈ past, d.ranOut h = false) →
      let sent := past.flatMap (Deed.sent h)
      let wanted := total (Deed.wanted h) past
      past.flatMap (Deed.gotten h) = sent.take wanted ∧ wanted ≤ sent.length ∧
      (h ∈ attached → h ∉ closed → ∀ size during, wanted + size ≤ sent.length →
        (l.readDuring h size during).1 = .ok ((sent.drop wanted).take size))) := by
  intro past l attached closed
  have sound : Sound l past := by simpa using run_sound (make ports patience) [] steps (sound_make ports patience)
  exact ⟨sound.listed.numbered, sound.listed.counted, fun h away => l.refused_shut h (shut_pipe sound h away),
    open_answers sound, device_queue sound, host_queue sound⟩

-- Two ports in use at once. The second read of the first port waits for two more writes of its device end.
theorem port_read_in_pieces :
    let steps : List Step :=
      [.attach, .attach, .write ⟨1⟩ [1, 2], .send ⟨2⟩ [9], .send ⟨1⟩ [3, 4, 5], .read ⟨1⟩ 2 [], .write ⟨1⟩ [3],
        .read ⟨1⟩ 4 [(⟨5⟩, [6]), (⟨6⟩, [8, 10, 11])], .receive ⟨1⟩ 2, .release ⟨2⟩, .write ⟨2⟩ [1]]
    let past := ((make [] ⟨20⟩).run steps).1
    let l := ((make [] ⟨20⟩).run steps).2
    (∀ d ∈ past, d.fellShort ⟨1⟩ = false) ∧ (∀ d ∈ past, d.ranOut ⟨1⟩ = false) ∧ l.openCount = 1 ∧
    (l.write ⟨2⟩ [1]).1 = .error (.notOpen ⟨2⟩) ∧ (l.write ⟨1⟩ [1]).1 = .ok () ∧
    past.flatMap (Deed.gotten ⟨1⟩) = [3, 4, 5, 6, 8, 10] ∧ (l.readDuring ⟨1⟩ 1 []).1 = .ok [11] ∧
    past.flatMap (Deed.received ⟨1⟩) = [1, 2] ∧ (l.deviceRead ⟨1⟩ 1).1 = some [3] := by
  intro steps past l
  have whole : ∀ d ∈ past, d.fellShort ⟨1⟩ = false := by decide
  have timely : ∀ d ∈ past, d.ranOut ⟨1⟩ = false := by decide
  have held : (⟨1⟩ : Handle) ∈ past.flatMap Deed.attached := by decide
  have kept : (⟨1⟩ : Handle) ∉ past.flatMap Deed.closed := by decide
  have gone : (⟨2⟩ : Handle) ∈ past.flatMap Deed.closed := by decide
  obtain ⟨-, counted, away, here, device, host⟩ := ports_keep_queues [] ⟨20⟩ steps
  obtain ⟨received, -, waiting⟩ := device ⟨1⟩ whole
  obtain ⟨gotten, -, ready⟩ := host ⟨1⟩ timely
  have refused := congrArg Prod.fst (away ⟨2⟩ (.inr gone) [1] 0 []).1
  exact ⟨whole, timely, Nat.add_right_cancel (m := 1) counted, refused, (here ⟨1⟩ held kept [1] 0 []).1, gotten,
    ready held kept 1 [] (by decide), received, waiting held 1⟩

end PortLink
end PulseAnalyzer
