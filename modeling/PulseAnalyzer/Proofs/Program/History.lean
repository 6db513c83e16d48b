import PulseAnalyzer.Program.Basic

set_option autoImplicit false

namespace PulseAnalyzer

structure Event where
  request : Request
  answer : request.Answer

namespace Program

variable {α β σ : Type}

def history (answer : (r : Request) → σ → r.Answer × σ) : Program α → σ → List Event
  | .done _, _ => []
  | .ask r next, s =>
    let step := answer r s
    ⟨r, step.1⟩ :: history answer (next step.1) step.2
  | .spent, _ => []

-- There is no result when the budget of repetitions is spent.
inductive Traced : Program α → List Event → Option α → Prop where
  | done (value : α) : Traced (.done value) [] (some value)
  | ask (request : Request) (next : request.Answer → Program α) (answer : request.Answer)
      (events : List Event) (result : Option α) (rest : Traced (next answer) events result) :
      Traced (.ask request next) (⟨request, answer⟩ :: events) result
  | spent : Traced .spent [] none

theorem history_traced (answer : (r : Request) → σ → r.Answer × σ) (p : Program α) (s : σ) :
    Traced p (history answer p s) (run answer p s).1 := by
  induction p generalizing s with
  | done value => exact .done value
  | ask r next ih => exact .ask r next _ _ _ (ih (answer r s).1 (answer r s).2)
  | spent => exact .spent

theorem history_answered (answer : (r : Request) → σ → r.Answer × σ) (p : Program α) (s : σ)
    (e : Event) (member : e ∈ history answer p s) : ∃ state, e.answer = (answer e.request state).1 := by
  induction p generalizing s with
  | done value => cases member
  | ask r next ih =>
      rcases List.mem_cons.mp member with rfl | later
      · exact ⟨s, rfl⟩
      · exact ih (answer r s).1 (answer r s).2 later
  | spent => cases member

theorem bind_assoc {γ : Type} (p : Program α) (f : α → Program β) (g : β → Program γ) :
    (p.bind f).bind g = p.bind fun value => (f value).bind g := by
  induction p with
  | done value => rfl
  | spent => rfl
  | ask r next ih =>
      simp only [bind]
      congr 1
      funext answer
      exact ih answer

theorem run_bind (answer : (r : Request) → σ → r.Answer × σ) (p : Program α) (f : α → Program β) (s : σ) :
    run answer (p.bind f) s = match run answer p s with
      | (some value, t) => run answer (f value) t
      | (none, t) => (none, t) := by
  induction p generalizing s with
  | done value => rfl
  | ask r next ih => exact ih (answer r s).1 (answer r s).2
  | spent => rfl

theorem history_bind (answer : (r : Request) → σ → r.Answer × σ) (p : Program α) (f : α → Program β) (s : σ) :
    history answer (p.bind f) s = history answer p s ++ match run answer p s with
      | (some value, t) => history answer (f value) t
      | (none, _) => [] := by
  induction p generalizing s with
  | done value => rfl
  | ask r next ih => exact congrArg (List.cons _) (ih (answer r s).1 (answer r s).2)
  | spent => rfl

theorem traced_done (value : α) (events : List Event) (result : Option α) :
    Traced (.done value) events result ↔ events = [] ∧ result = some value := by
  constructor
  · intro traced
    cases traced
    exact ⟨rfl, rfl⟩
  · rintro ⟨rfl, rfl⟩
    exact .done value

theorem traced_spent (events : List Event) (result : Option α) :
    Traced .spent events result ↔ events = [] ∧ result = none := by
  constructor
  · intro traced
    cases traced
    exact ⟨rfl, rfl⟩
  · rintro ⟨rfl, rfl⟩
    exact .spent

theorem traced_ask (r : Request) (next : r.Answer → Program α) (events : List Event)
    (result : Option α) :
    Traced (.ask r next) events result ↔
      ∃ answer rest, Traced (next answer) rest result ∧ events = ⟨r, answer⟩ :: rest := by
  constructor
  · intro traced
    cases traced with
    | ask _ _ answer rest _ after => exact ⟨answer, rest, after, rfl⟩
  · rintro ⟨answer, rest, after, rfl⟩
    exact .ask r next answer rest result after

theorem traced_bind (p : Program α) (f : α → Program β) (events : List Event) (result : Option β) :
    Traced (p.bind f) events result ↔
      (∃ value first rest, Traced p first (some value) ∧ Traced (f value) rest result ∧
        events = first ++ rest) ∨
      (Traced p events none ∧ result = none) := by
  induction p generalizing events with
  | done value =>
      constructor
      · intro traced
        exact .inl ⟨value, [], events, .done value, traced, rfl⟩
      · rintro (⟨found, first, rest, begun, after, rfl⟩ | ⟨stuck, _⟩)
        · cases begun
          exact after
        · cases stuck
  | spent =>
      constructor
      · intro traced
        obtain ⟨rfl, rfl⟩ := (traced_spent events result).mp traced
        exact .inr ⟨.spent, rfl⟩
      · rintro (⟨_, _, _, begun, _, _⟩ | ⟨stuck, rfl⟩)
        · cases begun
        · obtain ⟨rfl, -⟩ := (traced_spent events (none : Option α)).mp stuck
          exact .spent
  | ask r next ih =>
      constructor
      · intro traced
        obtain ⟨answer, rest, after, rfl⟩ := (traced_ask r _ events result).mp traced
        rcases (ih answer rest).mp after with ⟨value, first, last, begun, ended, rfl⟩ | ⟨stuck, ended⟩
        · exact .inl ⟨value, ⟨r, answer⟩ :: first, last, .ask r next answer first _ begun, ended, rfl⟩
        · exact .inr ⟨.ask r next answer rest none stuck, ended⟩
      · rintro (⟨value, first, last, begun, ended, rfl⟩ | ⟨stuck, rfl⟩)
        · obtain ⟨answer, rest, after, rfl⟩ := (traced_ask r next first _).mp begun
          exact .ask r _ answer _ result ((ih answer _).mpr (.inl ⟨value, rest, last, after, ended, rfl⟩))
        · obtain ⟨answer, rest, after, rfl⟩ := (traced_ask r next events none).mp stuck
          exact .ask r _ answer _ none ((ih answer _).mpr (.inr ⟨after, rfl⟩))

end Program

namespace Procedure

variable {α β : Type}

def Traced (p : Procedure α) (events : List Event) (result : Option (Except Fault α)) : Prop :=
  Program.Traced p.run events result

theorem traced_of_except (outcome : Except Fault α) (events : List Event)
    (result : Option (Except Fault α)) :
    Traced (ofExcept outcome) events result ↔ events = [] ∧ result = some outcome :=
  Program.traced_done outcome events result

theorem traced_pure (value : α) (events : List Event) (result : Option (Except Fault α)) :
    Traced (pure value) events result ↔ events = [] ∧ result = some (.ok value) :=
  Program.traced_done (Except.ok value : Except Fault α) events result

theorem traced_spent (events : List Event) (result : Option (Except Fault α)) :
    Traced (ExceptT.mk .spent) events result ↔ events = [] ∧ result = none :=
  Program.traced_spent events result

theorem traced_bind (p : Procedure α) (f : α → Procedure β) (events : List Event)
    (result : Option (Except Fault β)) :
    Traced (p >>= f) events result ↔
      (∃ value first rest, Traced p first (some (.ok value)) ∧ Traced (f value) rest result ∧
        events = first ++ rest) ∨
      (∃ fault, Traced p events (some (.error fault)) ∧ result = some (.error fault)) ∨
      (Traced p events none ∧ result = none) := by
  refine (Program.traced_bind p.run _ events result).trans ?_
  constructor
  · rintro (⟨outcome, first, rest, begun, after, rfl⟩ | stuck)
    · cases outcome with
      | ok value => exact .inl ⟨value, first, rest, begun, after, rfl⟩
      | error fault =>
          obtain ⟨rfl, rfl⟩ := (Program.traced_done _ rest result).mp after
          exact .inr (.inl ⟨fault, (List.append_nil first).symm ▸ begun, rfl⟩)
    · exact .inr (.inr stuck)
  · rintro (⟨value, first, rest, begun, after, rfl⟩ | ⟨fault, failed, rfl⟩ | stuck)
    · exact .inl ⟨.ok value, first, rest, begun, after, rfl⟩
    · exact .inl ⟨.error fault, events, [], failed,
          .done (Except.error fault : Except Fault β), (List.append_nil events).symm⟩
    · exact .inr stuck

-- The result of a lifted program is handed on as it is, faults included.
theorem traced_lift_bind (p : Procedure α) (f : Except Fault α → Procedure β) (events : List Event)
    (result : Option (Except Fault β)) :
    Traced (ExceptT.lift p.run >>= f) events result ↔
      (∃ outcome first rest, Traced p first (some outcome) ∧ Traced (f outcome) rest result ∧
        events = first ++ rest) ∨
      (Traced p events none ∧ result = none) := by
  have handed : (ExceptT.lift p.run >>= f).run = p.run.bind fun outcome => (f outcome).run :=
    Program.bind_assoc p.run _ _
  unfold Traced
  rw [handed]
  exact Program.traced_bind p.run _ events result

theorem traced_ask_bind (r : Request) (f : r.Answer → Procedure β) (events : List Event)
    (result : Option (Except Fault β)) :
    Traced (ask r >>= f) events result ↔
      ∃ answer rest, Traced (f answer) rest result ∧ events = ⟨r, answer⟩ :: rest :=
  Program.traced_ask r (fun answer => (f answer).run) events result

theorem traced_ask (r : Request) (events : List Event) (result : Option (Except Fault r.Answer)) :
    Traced (ask r) events result ↔
      ∃ answer, events = [⟨r, answer⟩] ∧ result = some (.ok answer) := by
  refine (Program.traced_ask r _ events result).trans ?_
  constructor
  · rintro ⟨answer, rest, ended, rfl⟩
    cases ended
    exact ⟨answer, rfl, rfl⟩
  · rintro ⟨answer, rfl, rfl⟩
    exact ⟨answer, [], .done (Except.ok answer : Except Fault r.Answer), rfl⟩

theorem traced_api (call : Acquisition.Call) (events : List Event)
    (result : Option (Except Fault call.Value)) :
    Traced (api call) events result ↔
      ∃ answer : call.Answer, events = [⟨.api call, answer⟩] ∧
        result = some (checkStatus call.title answer) := by
  refine (Program.traced_ask (.api call) _ events result).trans ?_
  constructor
  · rintro ⟨answer, rest, ended, rfl⟩
    cases ended
    exact ⟨answer, rfl, rfl⟩
  · rintro ⟨answer, rfl, rfl⟩
    exact ⟨answer, [], .done (checkStatus call.title answer), rfl⟩

theorem traced_api_bind (call : Acquisition.Call) (f : call.Value → Procedure β)
    (events : List Event) (result : Option (Except Fault β)) :
    Traced (api call >>= f) events result ↔
      (∃ value rest, Traced (f value) rest result ∧ events = ⟨.api call, .ok value⟩ :: rest) ∨
      (∃ code, events = [⟨.api call, .error code⟩] ∧
        result = some (.error (.device call.title code))) := by
  refine (Program.traced_ask (.api call) _ events result).trans ?_
  constructor
  · rintro ⟨answer, rest, ended, rfl⟩
    cases answer with
    | ok value => exact .inl ⟨value, rest, ended, rfl⟩
    | error code =>
        cases ended
        exact .inr ⟨code, rfl, rfl⟩
  · rintro (⟨value, rest, ended, rfl⟩ | ⟨code, rfl, rfl⟩)
    · exact ⟨.ok value, rest, ended, rfl⟩
    · exact ⟨.error code, [], .done (Except.error (.device call.title code) : Except Fault β), rfl⟩

def Returns (p : Procedure α) : Prop := ∀ events, ¬ p.Traced events none

theorem returns_of_except (outcome : Except Fault α) : Returns (ofExcept outcome) := by
  intro events traced
  obtain ⟨-, impossible⟩ := (traced_of_except outcome events none).mp traced
  cases impossible

theorem returns_pure (value : α) : Returns (pure value) := returns_of_except (.ok value)

theorem returns_ask (r : Request) : Returns (ask r) := by
  intro events traced
  obtain ⟨_, -, impossible⟩ := (traced_ask r events none).mp traced
  cases impossible

theorem returns_api (call : Acquisition.Call) : Returns (api call) := by
  intro events traced
  obtain ⟨_, -, impossible⟩ := (traced_api call events none).mp traced
  cases impossible

theorem returns_bind (p : Procedure α) (f : α → Procedure β) (first : Returns p) (rest : ∀ value, Returns (f value)) :
    Returns (p >>= f) := by
  intro events traced
  rcases (traced_bind p f events none).mp traced with ⟨value, _, tail, -, after, -⟩ | ⟨_, -, impossible⟩ | ⟨stuck, -⟩
  · exact rest value tail after
  · cases impossible
  · exact first events stuck

def Ends (p : Procedure α) (P : List Event → Except Fault α → Prop) : Prop :=
  ∀ events result, p.Traced events result → ∃ outcome, result = some outcome ∧ P events outcome

theorem ends_of_except (outcome : Except Fault α) (P : List Event → Except Fault α → Prop) (holds : P [] outcome) :
    Ends (ofExcept outcome) P := by
  intro events result traced
  obtain ⟨rfl, rfl⟩ := (traced_of_except outcome events result).mp traced
  exact ⟨outcome, rfl, holds⟩

theorem ends_pure (value : α) (P : List Event → Except Fault α → Prop) (holds : P [] (.ok value)) :
    Ends (pure value) P :=
  ends_of_except (.ok value) P holds

theorem ends_bind (p : Procedure α) (f : α → Procedure β) (P : List Event → Except Fault α → Prop)
    (Q : List Event → Except Fault β → Prop) (first : Ends p P)
    (rest : ∀ before value, P before (.ok value) → Ends (f value) fun after => Q (before ++ after))
    (failed : ∀ events fault, P events (.error fault) → Q events (.error fault)) : Ends (p >>= f) Q := by
  intro events result traced
  rcases (traced_bind p f events result).mp traced with
    ⟨value, before, after, begun, ended, rfl⟩ | ⟨fault, stopped, rfl⟩ | ⟨stuck, -⟩
  · obtain ⟨outcome, same, holds⟩ := first before _ begun
    cases same
    exact rest before value holds after result ended
  · obtain ⟨outcome, same, holds⟩ := first events _ stopped
    cases same
    exact ⟨.error fault, rfl, failed events fault holds⟩
  · obtain ⟨outcome, impossible, -⟩ := first events _ stuck
    cases impossible

theorem ends_run {σ : Type} (answer : (r : Request) → σ → r.Answer × σ) (p : Procedure α) (s : σ)
    (P : List Event → Except Fault α → Prop) (ends : Ends p P) :
    ∃ outcome, (Program.run answer p.run s).1 = some outcome ∧ P (Program.history answer p.run s) outcome :=
  ends _ _ (Program.history_traced answer p.run s)

end Procedure
end PulseAnalyzer
