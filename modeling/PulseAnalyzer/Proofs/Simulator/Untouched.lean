import PulseAnalyzer.Proofs.Simulator.Exchange

set_option autoImplicit false

namespace PulseAnalyzer

def Request.Spares : Request → Prop
  | .api (.setValue _ _ _) => False
  | .link (.write _ _ data) => ∀ opcode arguments, Frame.decode? data = some (opcode, arguments) →
      ¬ (opcode = opcodeLed ∧ Registers.Writing arguments)
  | _ => True

def Bench.registersOf? (b : Bench) (device : Nat) : Option Registers :=
  match b.link with
  | .simulated l => some (l.registersOf device)
  | .ports _ => none

structure Bench.Untouched (b c : Bench) : Prop where
  registers : ∀ device, c.registersOf? device = b.registersOf? device
  values : c.api.values = b.api.values

theorem untouched_refl (b : Bench) : b.Untouched b := ⟨fun _ => rfl, rfl⟩

theorem untouched_trans (b c d : Bench) (first : b.Untouched c) (second : c.Untouched d) : b.Untouched d :=
  ⟨fun device => (second.registers device).trans (first.registers device), second.values.trans first.values⟩

theorem untouched_of_same (b c : Bench) (link : c.link = b.link) (api : c.api = b.api) : b.Untouched c := by
  refine ⟨fun device => ?_, by rw [api]⟩
  rw [Bench.registersOf?, Bench.registersOf?, link]

namespace SimulatedLink

theorem serve_spares (l : SimulatedLink) (handle owner : Nat) (opcode : UInt8) (arguments : Bytes)
    (reads : ¬ (opcode = opcodeLed ∧ Registers.Writing arguments)) (device : Nat) :
    (l.serve handle owner opcode arguments).registersOf device = l.registersOf device := by
  have served : (l.serve handle owner opcode arguments).registersOf device =
      if device = owner then (l.registersOf owner).after opcode arguments else l.registersOf device :=
    registers_of_set l owner device _
  rw [served, Registers.after_unwritten _ _ _ reads]
  split
  · rename_i same
    rw [same]
  · rfl

theorem write_spares (l : SimulatedLink) (handle : Handle) (address : Nat) (data : Bytes)
    (spares : Request.Spares (.link (.write handle address data))) (device : Nat) :
    (l.write handle address data).2.registersOf device = l.registersOf device := by
  rcases l.enter_cases "write" with ⟨fault, entered⟩ | entered
  · simp only [write, entered]
    rfl
  · simp only [write, entered]
    split
    · rfl
    · split
      · rfl
      · split
        · rfl
        · rename_i owner _ _ opcode arguments decoded
          exact (l.noted data).serve_spares handle.number owner opcode arguments (spares opcode arguments decoded) device

theorem effect_spares (l m : SimulatedLink) (call : Link.Call) (answer : call.Answer) (effect : l.Effect call answer m)
    (other : ∀ handle address data, call ≠ .write handle address data) (device : Nat) :
    m.registersOf device = l.registersOf device := by
  cases effect with
  | rejected handle address data => rfl
  | served handle address data => exact absurd rfl (other handle address data)
  | refused | acquired | fetched | unheld | released => rfl

theorem answer_spares (l : SimulatedLink) (call : Link.Call) (spares : Request.Spares (.link call)) (device : Nat) :
    (l.answer call).2.registersOf device = l.registersOf device := by
  by_cases written : ∃ handle address data, call = .write handle address data
  · obtain ⟨handle, address, data, rfl⟩ := written
    exact l.write_spares handle address data spares device
  · refine l.effect_spares _ call _ (l.answer_effect call) ?_ device
    exact fun handle address data same => written ⟨handle, address, data, same⟩

end SimulatedLink

theorem SimulatedApi.poll_changes (s : SimulatedApi) (now : Instant) (channel : Nat) :
    ∃ script running, (s.poll now channel).2 = { s with script, running } := by
  unfold SimulatedApi.poll
  split
  · exact ⟨_, _, rfl⟩
  · split
    · split
      · split <;> exact ⟨_, _, rfl⟩
      · exact ⟨_, _, rfl⟩
    · exact ⟨_, _, rfl⟩

namespace Bench

-- A link that tells the same registers takes the place of the one before, whatever it answered.
theorem replaced_untouched (b : Bench) (link : BenchLink) (call : Link.Call) (answer : call.Answer)
    (same : ∀ device, { b with link }.registersOf? device = b.registersOf? device) :
    b.Untouched ({ b with link }.standInResponse call answer).2 := by
  refine untouched_trans b { b with link } _ ⟨same, rfl⟩ ?_
  unfold standInResponse
  split
  · split
    · exact untouched_of_same _ _ rfl rfl
    · exact untouched_refl _
  · exact untouched_refl _

theorem elapse_untouched (b : Bench) (millis : Nat) : b.Untouched (b.elapse millis) := by
  unfold elapse
  split
  · exact untouched_refl b
  · exact untouched_of_same b _ rfl rfl

theorem call_link_untouched (b : Bench) (call : Link.Call) (spares : Request.Spares (.link call)) :
    b.Untouched (b.callLink call).2 := by
  have noted : b.Untouched (b.noteWrite call) := by
    cases call <;> exact untouched_of_same b _ rfl rfl
  refine untouched_trans b _ _ noted ?_
  unfold callLink
  dsimp only
  split
  · rename_i l simulated
    refine replaced_untouched (b.noteWrite call) _ call _ fun device => ?_
    rw [registersOf?, registersOf?, simulated]
    exact congrArg some (l.answer_spares call spares device)
  · rename_i ports known
    have waited := (b.noteWrite call).elapse_untouched
      ((b.noteWrite call).millis + wakeMillis (ports.answer call).2.1.nanos)
    refine untouched_trans _ _ _ waited (replaced_untouched _ _ call _ fun device => ?_)
    rw [waited.registers device, registersOf?, registersOf?, known]

theorem call_api_values (a : SimulatedApi) (now : Instant) (call : Acquisition.Call)
    (spares : Request.Spares (.api call)) : (a.answer now call).2.values = a.values := by
  have entered : (a.enter call).2.values = a.values := by
    unfold SimulatedApi.enter
    dsimp only
    split
    · rfl
    · split
      · split <;> rfl
      · rfl
  unfold SimulatedApi.answer
  split
  · rename_i same
    rw [same] at entered
    exact entered
  · rename_i left same
    rw [same] at entered
    refine Eq.trans ?_ entered
    cases call with
    | setValue => exact spares.elim
    | special target run => cases run <;> rfl
    | runActive channel =>
        obtain ⟨script, running, changed⟩ := left.poll_changes now channel
        change (left.poll now channel).2.values = left.values
        rw [changed]
    | _ => rfl

theorem answer_untouched (b : Bench) (r : Request) (spares : r.Spares) : b.Untouched (answer r b).2 := by
  cases r with
  | api call => exact ⟨fun _ => rfl, call_api_values b.api b.now call spares⟩
  | link call => exact b.call_link_untouched call spares
  | pause millis => exact b.elapse_untouched (b.millis + millis)
  | await deadline =>
      have woken := b.elapse_untouched (wakeMillis deadline)
      obtain ⟨later, elapsed, ended⟩ := b.await_cases deadline
      rw [← elapsed] at woken
      rcases ended with ⟨-, ended⟩ | ⟨-, -, ended⟩ | ⟨-, -, ended⟩
      · rw [answer, ended]
        exact untouched_refl b
      · rw [answer, ended]
        exact untouched_trans b later _ woken (untouched_of_same later _ rfl rfl)
      · rw [answer, ended]
        exact woken
  | now | isCancelled | enter phase | emit m | print line => exact untouched_of_same b _ rfl rfl

theorem run_untouched {α : Type} (p : Program α) (b : Bench)
    (spares : ∀ e ∈ Program.history answer p b, e.request.Spares) : b.Untouched (Program.run answer p b).2 := by
  induction p generalizing b with
  | done value => exact untouched_refl b
  | spent => exact untouched_refl b
  | ask r next ih =>
      obtain ⟨here, later⟩ := List.forall_mem_cons.mp spares
      exact untouched_trans b _ _ (b.answer_untouched r here) (ih _ _ later)

end Bench
end PulseAnalyzer
