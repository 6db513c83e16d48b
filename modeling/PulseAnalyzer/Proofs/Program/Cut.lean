import PulseAnalyzer.Proofs.Program.History

set_option autoImplicit false

namespace PulseAnalyzer

section cuts
variable (P : List Event → Event → List Event → Prop)

def EachCut (past events future : List Event) : Prop :=
  ∀ before e after, events = before ++ e :: after → P (past ++ before) e (after ++ future)

theorem each_cut_nil (past future : List Event) : EachCut P past [] future := by
  intro before e after split
  simp at split

theorem each_cut_cons (past : List Event) (e : Event) (rest future : List Event)
    (here : P past e (rest ++ future)) (there : EachCut P (past ++ [e]) rest future) :
    EachCut P past (e :: rest) future := by
  intro before x after split
  rcases List.cons_eq_append_iff.mp split with ⟨rfl, same⟩ | ⟨left, rfl, same⟩
  · obtain ⟨rfl, rfl⟩ := List.cons.inj same
    rw [List.append_nil]
    exact here
  · have found := there left x after same
    rw [List.append_assoc] at found
    exact found

theorem each_cut_singleton (past : List Event) (e : Event) (future : List Event) (here : P past e future) :
    EachCut P past [e] future :=
  each_cut_cons P past e [] future here (each_cut_nil P _ future)

theorem each_cut_append (past a b future : List Event) (first : EachCut P past a (b ++ future))
    (second : EachCut P (past ++ a) b future) : EachCut P past (a ++ b) future := by
  induction a generalizing past with
  | nil =>
      rw [List.append_nil] at second
      exact second
  | cons e rest ih =>
      refine each_cut_cons P past e (rest ++ b) future ?_ (ih (past ++ [e]) ?_ ?_)
      · have found := first [] e rest rfl
        rw [List.append_nil] at found
        rw [List.append_assoc]
        exact found
      · intro before x after split
        have found := first (e :: before) x after (by rw [split]; rfl)
        rw [List.append_cons] at found
        exact found
      · rw [List.append_cons] at second
        exact second

end cuts

theorem each_cut_mono (P Q : List Event → Event → List Event → Prop) (past events future : List Event)
    (weaker : ∀ before e after, P before e after → Q before e after) (each : EachCut P past events future) :
    EachCut Q past events future := by
  intro before e after split
  exact weaker _ e _ (each before e after split)

namespace Procedure

variable {α β : Type} (P : List Event → Event → List Event → Prop)

-- `pre` is what may be relied on of all that came before the procedure.
def Each (pre : List Event → Prop) (p : Procedure α) : Prop :=
  ∀ events result, p.Traced events result → ∀ past future, pre past → EachCut P past events future

theorem each_weaken (pre weak : List Event → Prop) (p : Procedure α) (each : Each P weak p)
    (implied : ∀ past, pre past → weak past) : Each P pre p := by
  intro events result traced past future known
  exact each events result traced past future (implied past known)

theorem each_anywhere (pre : List Event → Prop) (p : Procedure α) (each : Each P (fun _ => True) p) :
    Each P pre p :=
  each_weaken P pre _ p each fun _ _ => trivial

theorem each_of_except (pre : List Event → Prop) (outcome : Except Fault α) :
    Each P pre (ofExcept outcome) := by
  intro events result traced past future _
  obtain ⟨rfl, -⟩ := (traced_of_except outcome events result).mp traced
  exact each_cut_nil P past future

theorem each_pure (pre : List Event → Prop) (value : α) : Each P pre (pure value : Procedure α) :=
  each_of_except P pre (.ok value)

theorem each_spent (pre : List Event → Prop) : Each P pre (ExceptT.mk .spent : Procedure α) := by
  intro events result traced past future _
  obtain ⟨rfl, -⟩ := (traced_spent events result).mp traced
  exact each_cut_nil P past future

theorem each_bind (pre : List Event → Prop) (p : Procedure α) (f : α → Procedure β) (first : Each P pre p)
    (rest : ∀ value, Each P (fun _ => True) (f value)) : Each P pre (p >>= f) := by
  intro events result traced past future known
  rcases (traced_bind p f events result).mp traced with
    ⟨value, head, tail, begun, after, rfl⟩ | ⟨fault, failed, rfl⟩ | ⟨stuck, rfl⟩
  · exact each_cut_append P past head tail future (first head _ begun past _ known)
      (rest value tail result after _ future trivial)
  · exact first events _ failed past future known
  · exact first events _ stuck past future known

-- What follows a request can rely on its answer standing right before, and the request on what
-- follows it.
theorem each_ask_bind (pre : List Event → Prop) (r : Request) (f : r.Answer → Procedure β)
    (here : ∀ past answer tail result future, pre past → (f answer).Traced tail result →
      P past ⟨r, answer⟩ (tail ++ future))
    (rest : ∀ answer, Each P (fun past => past.getLast? = some ⟨r, answer⟩) (f answer)) :
    Each P pre (ask r >>= f) := by
  intro events result traced past future known
  obtain ⟨answer, tail, after, rfl⟩ := (traced_ask_bind r f events result).mp traced
  refine each_cut_cons P past _ tail future (here past answer tail result future known after) ?_
  exact rest answer tail result after _ future (by simp)

theorem each_api_bind (pre : List Event → Prop) (call : Acquisition.Call) (f : call.Value → Procedure β)
    (here : ∀ past value tail result future, pre past → (f value).Traced tail result →
      P past ⟨.api call, .ok value⟩ (tail ++ future))
    (failing : ∀ past code future, pre past → P past ⟨.api call, .error code⟩ future)
    (rest : ∀ value, Each P (fun past => past.getLast? = some ⟨.api call, .ok value⟩) (f value)) :
    Each P pre (api call >>= f) := by
  intro events result traced past future known
  rcases (traced_api_bind call f events result).mp traced with ⟨value, tail, after, rfl⟩ | ⟨code, rfl, rfl⟩
  · refine each_cut_cons P past _ tail future (here past value tail result future known after) ?_
    exact rest value tail result after _ future (by simp)
  · exact each_cut_singleton P past _ future (failing past code future known)

end Procedure
end PulseAnalyzer
