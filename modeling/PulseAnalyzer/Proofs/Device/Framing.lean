import PulseAnalyzer.Proofs.Device.Conduct
import PulseAnalyzer.Proofs.Wire.RoundTrip

set_option autoImplicit false

namespace PulseAnalyzer

def Event.Transmits (e : Event) (address : Nat) (data : Bytes) : Prop :=
  ∃ handle, e.request = .link (.write handle address data)

namespace Command

def Entry.argument? : Entry → Option Argument
  | ⟨.append a, .ok _⟩ => some a
  | ⟨.appendNamed value kind, .ok _⟩ => (ArgumentKind.parse kind).toOption.map (⟨·, value⟩)
  | _ => none

def accepted (entries : List Entry) : List Argument := entries.filterMap Entry.argument?

def frameBody (opcode : UInt8) (arguments : List Argument) : Bytes := opcode :: arguments.flatMap Argument.bytes

theorem conduct_framed (c d : Command) (step : Step) (events : List Event) (reply : Except Fault step.Value)
    (conduct : Conduct c step events reply d) (framed : c.stage ≠ .building) : d.stage ≠ .building ∧ d.bytes = c.bytes := by
  have made := c.finalize_framed framed
  cases conduct with
  | added a d accepted => exact absurd ((append_ok_iff c d a).mp accepted).1 framed
  | addedNamed value kind d accepted =>
      obtain ⟨known, -, added⟩ := (append_named_ok_iff c d value kind).mp accepted
      exact absurd ((append_ok_iff c d _).mp added).1 framed
  | finalized | unopened =>
      rw [made]
      exact ⟨framed, rfl⟩
  | opened handle written free =>
      rw [made]
      exact ⟨nofun, rfl⟩
  | closed => exact ⟨nofun, rfl⟩
  | refused | refusedNamed | sent | received | unsent | idle => exact ⟨framed, rfl⟩

theorem conduct_transmits (c d : Command) (step : Step) (events : List Event) (reply : Except Fault step.Value)
    (conduct : Conduct c step events reply d) (e : Event) (member : e ∈ events) (address : Nat) (data : Bytes)
    (transmits : e.Transmits address data) :
    d.stage ≠ .building ∧ address = Link.tunnel ∧ data = d.bytes := by
  obtain ⟨handle, written⟩ := transmits
  cases conduct with
  | sent own answer holds =>
      cases List.mem_singleton.mp member
      cases written
      exact ⟨by simp [holds], rfl, rfl⟩
  | opened own answer free =>
      rcases List.mem_cons.mp member with rfl | member
      · cases written
      · cases List.mem_singleton.mp member
        cases written
        exact ⟨nofun, rfl, rfl⟩
  | unopened | received | closed =>
      cases List.mem_singleton.mp member
      cases written
  | added | addedNamed | refused | refusedNamed | finalized | unsent | idle => cases member

theorem accepted_more (past : List Entry) (entry : Entry) (a : Argument) (more : entry.argument? = some a) :
    accepted (past ++ [entry]) = accepted past ++ [a] := by
  simp [accepted, more]

theorem accepted_same (past : List Entry) (entry : Entry) (unchanged : entry.argument? = none) :
    accepted (past ++ [entry]) = accepted past := by
  simp [accepted, unchanged]

structure Holds (opcode : UInt8) (arguments : List Argument) (c : Command) : Prop where
  fit : ∀ a ∈ arguments, a.Fits
  collected : c.stage = .building → c.bytes = frameBody opcode arguments
  framed : c.stage ≠ .building → c.bytes = Frame.encode (frameBody opcode arguments)

theorem holds_added (opcode : UInt8) (arguments : List Argument) (c d : Command) (a : Argument)
    (holds : Holds opcode arguments c) (added : c.append a = .ok d) : Holds opcode (arguments ++ [a]) d := by
  obtain ⟨building, fits, rfl⟩ := (append_ok_iff c d a).mp added
  constructor
  · intro b member
    rcases List.mem_append.mp member with earlier | last
    · exact holds.fit b earlier
    · rw [List.mem_singleton.mp last]
      exact fits
  · intro _
    have before := holds.collected building
    simp [before, frameBody]
  · intro framed
    exact absurd building framed

theorem holds_finalized (opcode : UInt8) (arguments : List Argument) (c : Command)
    (holds : Holds opcode arguments c) : Holds opcode arguments c.finalize := by
  by_cases building : c.stage = .building
  · rw [c.finalize_building building]
    exact ⟨holds.fit, nofun, fun _ => congrArg Frame.encode (holds.collected building)⟩
  · rw [c.finalize_framed building]
    exact holds

theorem finalize_stage (c : Command) : c.finalize.stage ≠ .building := by
  by_cases building : c.stage = .building
  · rw [c.finalize_building building]
    exact nofun
  · rw [c.finalize_framed building]
    exact building

theorem holds_framed (opcode : UInt8) (arguments : List Argument) (c : Command) (stage : Stage)
    (holds : Holds opcode arguments c) (framed : c.stage ≠ .building) (still : stage ≠ .building) :
    Holds opcode arguments { c with stage } :=
  ⟨holds.fit, fun building => absurd building still, fun _ => holds.framed framed⟩

theorem conduct_holds (opcode : UInt8) (past : List Entry) (c d : Command) (step : Step) (events : List Event)
    (reply : Except Fault step.Value) (holds : Holds opcode (accepted past) c) (conduct : Conduct c step events reply d) :
    Holds opcode (accepted (past ++ [⟨step, reply⟩])) d := by
  cases conduct with
  | added a d added =>
      rw [accepted_more past _ a rfl]
      exact holds_added opcode _ c d a holds added
  | addedNamed value kind d accepted =>
      obtain ⟨known, parsed, added⟩ := (append_named_ok_iff c d value kind).mp accepted
      have argument : Entry.argument? ⟨.appendNamed value kind, .ok ()⟩ = some ⟨known, value⟩ := by
        rw [Entry.argument?, parsed]
        rfl
      rw [accepted_more past _ _ argument]
      exact holds_added opcode _ c d _ holds added
  | finalized | unopened =>
      rw [accepted_same past _ rfl]
      exact holds_finalized opcode _ c holds
  | opened handle written free =>
      rw [accepted_same past _ rfl]
      exact holds_framed opcode _ c.finalize _ (holds_finalized opcode _ c holds) c.finalize_stage nofun
  | closed handle released held =>
      rw [accepted_same past _ rfl]
      exact holds_framed opcode _ c _ holds (by simp [held]) nofun
  | refused | refusedNamed | sent | received | unsent | idle =>
      rw [accepted_same past _ rfl]
      exact holds

-- All that was written before is what the command still stands at.
structure Carries (opcode : UInt8) (past : List Entry) (before : List Event) (c : Command) : Prop where
  holds : Holds opcode (accepted past) c
  transmitted : ∀ e ∈ before, ∀ address data, e.Transmits address data →
    c.stage ≠ .building ∧ address = Link.tunnel ∧ data = c.bytes

theorem conduct_carries (opcode : UInt8) (past : List Entry) (before : List Event) (c d : Command) (step : Step)
    (events : List Event) (reply : Except Fault step.Value) (carries : Carries opcode past before c)
    (conduct : Conduct c step events reply d) : Carries opcode (past ++ [⟨step, reply⟩]) (before ++ events) d := by
  refine ⟨conduct_holds opcode past c d step events reply carries.holds conduct, ?_⟩
  intro e member address data transmits
  rcases List.mem_append.mp member with earlier | now
  · obtain ⟨framed, tunnelled, same⟩ := carries.transmitted e earlier address data transmits
    obtain ⟨still, unchanged⟩ := conduct_framed c d step events reply conduct framed
    exact ⟨still, tunnelled, same.trans unchanged.symm⟩
  · exact conduct_transmits c d step events reply conduct e now address data transmits

theorem start_carries (device : Nat) (opcode : UInt8) : Carries opcode [] [] (start device opcode) :=
  ⟨⟨nofun, fun _ => rfl, fun framed => absurd rfl framed⟩, nofun⟩

theorem lived_framed (c d : Command) (entries : List Entry) (events : List Event) (lived : Lived c entries events d)
    (framed : c.stage ≠ .building) : d.stage ≠ .building ∧ d.bytes = c.bytes := by
  have keeps := lived_invariant (fun _ _ e => e.stage ≠ .building ∧ e.bytes = c.bytes)
    fun _ _ e f step events reply known conduct => by
      obtain ⟨still, same⟩ := conduct_framed e f step events reply conduct known.1
      exact ⟨still, same.trans known.2⟩
  exact keeps c d entries events lived [] [] ⟨framed, rfl⟩

structure AppendsWhole (c : Command) : Prop where
  accepts : ∀ a, c.stage = .building → a.Fits →
    c.perform (.append a) = .done (.ok (), { c with bytes := c.bytes ++ a.bytes })
  tooLarge : ∀ a, c.stage = .building → ¬ a.Fits →
    c.perform (.append a) = .done (.error (.range (.argument a.kind a.value)), c)
  late : ∀ a, c.stage ≠ .building →
    c.perform (.append a) = .done (.error (.state (.alreadyFinal a.kind a.value)), c)
  unknown : ∀ value kind fault, ArgumentKind.parse kind = .error fault →
    c.perform (.appendNamed value kind) = .done (.error fault, c)
  named : ∀ value kind known, ArgumentKind.parse kind = .ok known →
    c.perform (.appendNamed value kind) = c.perform (.append ⟨known, value⟩)

theorem appends_whole (c : Command) : c.AppendsWhole := by
  have kept : ∀ a outcome, c.append a = outcome → c.perform (.append a) = .done (c.kept outcome) := by
    rintro a _ rfl
    rfl
  constructor
  · intro a building fits
    exact kept a _ ((append_ok_iff c _ a).mpr ⟨building, fits, rfl⟩)
  · intro a building large
    refine kept a (.error (.range (.argument a.kind a.value))) ?_
    have step := c.append_appended a
    generalize c.append a = outcome at step
    cases step with
    | added _ fits => exact absurd fits large
    | tooLarge => rfl
    | late framed => exact absurd building framed
  · intro a framed
    refine kept a (.error (.state (.alreadyFinal a.kind a.value))) ?_
    have step := c.append_appended a
    generalize c.append a = outcome at step
    cases step with
    | added building => exact absurd building framed
    | tooLarge building => exact absurd building framed
    | late => rfl
  · intro value kind fault unknown
    have refused : c.appendNamed value kind = .error fault := by
      rw [appendNamed, unknown]
      rfl
    exact congrArg (fun outcome => Program.done (c.kept outcome)) refused
  · intro value kind known parsed
    have appended : c.appendNamed value kind = c.append ⟨known, value⟩ := by
      rw [appendNamed, parsed]
      rfl
    exact congrArg (fun outcome => Program.done (c.kept outcome)) appended

theorem live_keeps_frame {σ : Type} (answer : (r : Request) → σ → r.Answer × σ) (s : σ) (device : Nat)
    (opcode : UInt8) (steps : List Step) :
    ∃ entries c, (Program.run answer ((start device opcode).follow steps) s).1 = some (entries, c) ∧
      (Program.run answer (live device opcode steps) s).1 = some entries ∧
      entries.map Entry.step = steps ∧
      let body := frameBody opcode (accepted entries)
      (∀ a ∈ accepted entries, a.bytes.map UInt8.toNat = match a.kind with
        | .byte => [a.value]
        | .word => [a.value % 256, a.value / 256]) ∧
      (c.stage = .building → c.bytes = body) ∧
      (c.stage ≠ .building → c.bytes = 0x1B :: (body ++ [checksum body]) ∧
        ∀ more now, ∃ later d, (Program.run answer (c.follow more) now).1 = some (later, d) ∧
          d.stage ≠ .building ∧ d.bytes = c.bytes) ∧
      c.AppendsWhole ∧
      ∀ e ∈ Program.history answer (live device opcode steps) s, ∀ address data, e.Transmits address data →
        address = 0x01000000 ∧ data = 0x1B :: (body ++ [checksum body]) := by
  obtain ⟨entries, c, last, reply, d, followed, ran, listed, lived, conduct, whole⟩ := live_lived answer s device opcode steps
  have during := lived_invariant (Carries opcode)
    (fun past before c d step events reply => conduct_carries opcode past before c d step events reply)
    _ c entries _ lived [] [] (start_carries device opcode)
  rw [List.nil_append, List.nil_append] at during
  have after := conduct_carries opcode entries _ c d .close last reply during conduct
  rw [← whole] at after
  refine ⟨entries, c, followed, ran, listed, ?_, during.holds.collected, ?_, c.appends_whole, ?_⟩
  · intro a member
    exact a.bytes_digits (during.holds.fit a member)
  · intro framed
    refine ⟨during.holds.framed framed, fun more now => ?_⟩
    obtain ⟨later, e, followed, lives, -⟩ := follow_lived c more _ _ (Program.history_traced answer (c.follow more) now)
    exact ⟨later, e, followed, lived_framed c e later _ lives framed⟩
  · intro e member address data transmits
    obtain ⟨framed, tunnelled, same⟩ := after.transmitted e member address data transmits
    have frame := after.holds.framed framed
    rw [accepted_same entries _ rfl] at frame
    exact ⟨tunnelled, same.trans frame⟩

end Command
end PulseAnalyzer
