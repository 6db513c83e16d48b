import PulseAnalyzer.Proofs.Program.History

set_option autoImplicit false

namespace PulseAnalyzer

def Request.silence : (r : Request) → r.Answer
  | .api _ => .error 0
  | .link _ => .error .earlyEnd
  | .now => 0
  | .isCancelled => true
  | .await _ => none
  | .pause _ | .enter _ | .emit _ | .print _ => ()

namespace Program

variable {α : Type}

open Classical in
noncomputable def recite (r : Request) : List Event → r.Answer × List Event
  | [] => (r.silence, [])
  | e :: rest => if same : e.request = r then (same ▸ e.answer, rest) else (r.silence, rest)

theorem recite_same (r : Request) (answer : r.Answer) (rest : List Event) :
    recite r (⟨r, answer⟩ :: rest) = (answer, rest) := by
  rw [recite, dif_pos rfl]

theorem traced_recited (p : Program α) (events : List Event) (result : Option α)
    (traced : Traced p events result) :
    history recite p events = events ∧ (run recite p events).1 = result := by
  induction traced with
  | done value => exact ⟨rfl, rfl⟩
  | spent => exact ⟨rfl, rfl⟩
  | ask r next answer rest result _ ih =>
      constructor
      · rw [history, recite_same]
        exact congrArg (_ :: ·) ih.1
      · rw [run, recite_same]
        exact ih.2

end Program
end PulseAnalyzer
