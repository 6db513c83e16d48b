import PulseAnalyzer.Device.Command

set_option autoImplicit false

namespace PulseAnalyzer

def Argument.Fits (a : Argument) : Prop := a.value ≤ a.kind.maxValue

instance (a : Argument) : Decidable a.Fits := inferInstanceAs (Decidable (a.value ≤ a.kind.maxValue))

namespace Command

-- What an appended argument comes to. That the command is framed is found first.
inductive Appended (c : Command) (a : Argument) : Except Fault Command → Prop where
  | added (building : c.stage = .building) (fits : a.Fits) :
      Appended c a (.ok { c with bytes := c.bytes ++ a.bytes })
  | tooLarge (building : c.stage = .building) (large : ¬ a.Fits) :
      Appended c a (.error (.range (.argument a.kind a.value)))
  | late (framed : c.stage ≠ .building) :
      Appended c a (.error (.state (.alreadyFinal a.kind a.value)))

theorem framed_iff (c : Command) : c.isFramed = true ↔ c.stage ≠ .building := decide_eq_true_iff

theorem append_appended (c : Command) (a : Argument) : c.Appended a (c.append a) := by
  unfold append
  split
  · rename_i framed
    exact .late (c.framed_iff.mp framed)
  · rename_i unframed
    have building : c.stage = .building :=
      Decidable.byContradiction fun framed => unframed (c.framed_iff.mpr framed)
    split
    · rename_i large
      exact .tooLarge building (Nat.not_le_of_lt large)
    · rename_i small
      exact .added building (Nat.le_of_not_lt small)

theorem append_ok_iff (c d : Command) (a : Argument) :
    c.append a = .ok d ↔ c.stage = .building ∧ a.Fits ∧ d = { c with bytes := c.bytes ++ a.bytes } := by
  have step := c.append_appended a
  generalize c.append a = outcome at step
  cases step with
  | added building fits => simp [building, fits, eq_comm]
  | tooLarge building large => simp [large]
  | late framed => simp [framed]

theorem append_named_ok_iff (c d : Command) (value : Nat) (kind : String) :
    c.appendNamed value kind = .ok d ↔ ∃ known, ArgumentKind.parse kind = .ok known ∧ c.append ⟨known, value⟩ = .ok d := by
  rw [appendNamed]
  cases ArgumentKind.parse kind with
  | ok known => simp [bind, Except.bind]
  | error fault => simp [bind, Except.bind]

theorem append_all_ok_iff (c d : Command) (arguments : List Argument) (building : c.stage = .building) :
    c.appendAll arguments = .ok d ↔
      (∀ a ∈ arguments, a.Fits) ∧ d = { c with bytes := c.bytes ++ arguments.flatMap Argument.bytes } := by
  induction arguments generalizing c with
  | nil =>
      rw [List.flatMap_nil, List.append_nil]
      constructor
      · intro same
        exact ⟨nofun, (Except.ok.inj same).symm⟩
      · rintro ⟨-, rfl⟩
        rfl
  | cons a rest ih =>
      rw [List.forall_mem_cons, List.flatMap_cons, ← List.append_assoc]
      have step := c.append_appended a
      rw [appendAll]
      generalize c.append a = outcome at step
      cases step with
      | added _ fits =>
          refine (ih { c with bytes := c.bytes ++ a.bytes } building).trans ?_
          exact ⟨fun ⟨fit, same⟩ => ⟨⟨fits, fit⟩, same⟩, fun ⟨⟨_, fit⟩, same⟩ => ⟨fit, same⟩⟩
      | tooLarge _ large => exact ⟨nofun, fun ⟨⟨fits, _⟩, _⟩ => absurd fits large⟩
      | late framed => exact absurd building framed

theorem finalize_building (c : Command) (building : c.stage = .building) :
    c.finalize = { c with bytes := Frame.encode c.bytes, stage := .framed } := by
  have unframed : ¬ c.isFramed = true := fun framed => c.framed_iff.mp framed building
  rw [finalize, if_neg unframed]

theorem finalize_framed (c : Command) (framed : c.stage ≠ .building) : c.finalize = c := by
  rw [finalize, if_pos (c.framed_iff.mpr framed)]

end Command
end PulseAnalyzer
