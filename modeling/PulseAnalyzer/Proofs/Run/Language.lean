import PulseAnalyzer.Proofs.Run.ReadOut

set_option autoImplicit false

namespace PulseAnalyzer

theorem called_call (call : Acquisition.Call) (answer : call.Answer) (rest : List Event) :
    called (⟨.api call, answer⟩ :: rest) = ⟨.api call, answer⟩ :: called rest :=
  List.filter_cons_of_pos rfl

theorem called_silent (e : Event) (rest : List Event) (silent : e.call? = none) :
    called (e :: rest) = called rest := by
  refine List.filter_cons_of_neg ?_
  rw [silent]
  exact Bool.false_ne_true

namespace Procedure

variable {α β : Type}

def Speaks (p : Procedure α) (language : α → List Event → Prop) : Prop :=
  ∀ value word, language value word ↔ ∃ events, p.Traced events (some (.ok value)) ∧ called events = word

theorem speaks_congr (p : Procedure α) (language other : α → List Event → Prop)
    (speaks : Speaks p language) (same : ∀ value word, other value word ↔ language value word) :
    Speaks p other :=
  fun value word => (same value word).trans (speaks value word)

theorem speaks_of_except (outcome : Except Fault α) :
    Speaks (ofExcept outcome) fun value word => outcome = .ok value ∧ word = [] := by
  intro value word
  constructor
  · rintro ⟨rfl, rfl⟩
    exact ⟨[], (traced_of_except _ [] _).mpr ⟨rfl, rfl⟩, rfl⟩
  · rintro ⟨events, traced, rfl⟩
    obtain ⟨rfl, same⟩ := (traced_of_except outcome events _).mp traced
    exact ⟨(Option.some.inj same).symm, rfl⟩

theorem speaks_pure (value : α) :
    Speaks (pure value : Procedure α) fun found word => found = value ∧ word = [] := by
  refine speaks_congr _ _ _ (speaks_of_except (.ok value)) fun found word => and_congr_left fun _ => ?_
  constructor
  · intro same
    rw [same]
  · intro same
    exact (Except.ok.inj same).symm

theorem speaks_error (fault : Fault) : Speaks (ofExcept (.error fault) : Procedure α) fun _ _ => False := by
  refine speaks_congr _ _ _ (speaks_of_except (.error fault)) fun found word => ?_
  simp

theorem speaks_spent : Speaks (ExceptT.mk .spent : Procedure α) fun _ _ => False := by
  intro value word
  constructor
  · exact False.elim
  · rintro ⟨events, traced, -⟩
    obtain ⟨-, impossible⟩ := (traced_spent events _).mp traced
    cases impossible

theorem speaks_bind (p : Procedure α) (f : α → Procedure β) (language : α → List Event → Prop)
    (next : α → β → List Event → Prop) (first : Speaks p language) (rest : ∀ value, Speaks (f value) (next value)) :
    Speaks (p >>= f) fun found word =>
      ∃ value head tail, language value head ∧ next value found tail ∧ word = head ++ tail := by
  intro found word
  constructor
  · rintro ⟨value, head, tail, said, later, rfl⟩
    obtain ⟨before, begun, rfl⟩ := (first value head).mp said
    obtain ⟨after, ended, rfl⟩ := (rest value found tail).mp later
    refine ⟨before ++ after, (traced_bind p f _ _).mpr (.inl ?_), called_append before after⟩
    exact ⟨value, before, after, begun, ended, rfl⟩
  · rintro ⟨events, traced, rfl⟩
    rcases (traced_bind p f events _).mp traced with
      ⟨value, before, after, begun, ended, rfl⟩ | ⟨fault, -, impossible⟩ | ⟨-, impossible⟩
    · exact ⟨value, called before, called after, (first value _).mpr ⟨before, begun, rfl⟩,
        (rest value found _).mpr ⟨after, ended, rfl⟩, called_append before after⟩
    · cases impossible
    · cases impossible

-- A request that is no call adds no letter to a word, and what follows it may depend on any answer to it.
theorem speaks_ask_bind (r : Request) (f : r.Answer → Procedure β) (next : r.Answer → β → List Event → Prop)
    (silent : ∀ answer, Event.call? ⟨r, answer⟩ = none) (rest : ∀ answer, Speaks (f answer) (next answer)) :
    Speaks (ask r >>= f) fun found word => ∃ answer, next answer found word := by
  intro found word
  constructor
  · rintro ⟨answer, said⟩
    obtain ⟨events, traced, rfl⟩ := (rest answer found word).mp said
    exact ⟨⟨r, answer⟩ :: events, (traced_ask_bind r f _ _).mpr ⟨answer, events, traced, rfl⟩,
      called_silent _ events (silent answer)⟩
  · rintro ⟨events, traced, rfl⟩
    obtain ⟨answer, tail, after, rfl⟩ := (traced_ask_bind r f events _).mp traced
    refine ⟨answer, (rest answer found _).mpr ⟨tail, after, ?_⟩⟩
    exact (called_silent _ tail (silent answer)).symm

theorem speaks_api_bind (call : Acquisition.Call) (f : call.Value → Procedure β)
    (next : call.Value → β → List Event → Prop) (rest : ∀ value, Speaks (f value) (next value)) :
    Speaks (api call >>= f) fun found word =>
      ∃ value tail, next value found tail ∧ word = .success call value :: tail := by
  intro found word
  constructor
  · rintro ⟨value, tail, said, rfl⟩
    obtain ⟨events, traced, rfl⟩ := (rest value found tail).mp said
    exact ⟨.success call value :: events, (traced_api_bind call f _ _).mpr (.inl ⟨value, events, traced, rfl⟩),
      called_call call _ events⟩
  · rintro ⟨events, traced, rfl⟩
    rcases (traced_api_bind call f events _).mp traced with ⟨value, tail, after, rfl⟩ | ⟨code, -, impossible⟩
    · exact ⟨value, called tail, (rest value found _).mpr ⟨tail, after, rfl⟩, called_call call _ tail⟩
    · cases impossible

theorem speaks_ask (r : Request) (silent : ∀ answer, Event.call? ⟨r, answer⟩ = none) :
    Speaks (ask r) fun _ word => word = [] := by
  intro value word
  constructor
  · rintro rfl
    exact ⟨[⟨r, value⟩], (traced_ask r _ _).mpr ⟨value, rfl, rfl⟩, called_silent _ [] (silent value)⟩
  · rintro ⟨events, traced, rfl⟩
    obtain ⟨answer, rfl, -⟩ := (traced_ask r events _).mp traced
    exact called_silent _ [] (silent answer)

theorem speaks_api (call : Acquisition.Call) :
    Speaks (api call) fun value word => word = [.success call value] := by
  intro value word
  constructor
  · rintro rfl
    exact ⟨[.success call value], (traced_api call _ _).mpr ⟨.ok value, rfl, rfl⟩, rfl⟩
  · rintro ⟨events, traced, rfl⟩
    obtain ⟨answer, rfl, same⟩ := (traced_api call events _).mp traced
    cases answer with
    | ok found =>
        cases same
        rfl
    | error code => cases same

theorem speaks_check (p q : Procedure β) (stop go : β → List Event → Prop) (stops : Speaks p stop)
    (goes : Speaks q go) :
    Speaks (do if ← ask .isCancelled then p else q) fun found word => stop found word ∨ go found word := by
  have either : ∀ cancelled : Bool, Speaks (if cancelled then p else q) fun found word =>
      cancelled = true ∧ stop found word ∨ cancelled = false ∧ go found word := by
    intro cancelled
    cases cancelled with
    | true => simpa using stops
    | false => simpa using goes
  refine speaks_congr _ _ _ (speaks_ask_bind .isCancelled _ _ (fun _ => rfl) either) fun found word => ?_
  simp [or_comm]

theorem speaks_await (deadline : Instant) (f : Option Instant → Procedure β) (stop go : β → List Event → Prop)
    (stops : Speaks (f none) stop) (goes : ∀ now, Speaks (f (some now)) go) :
    Speaks (ask (.await deadline) >>= f) fun found word => stop found word ∨ go found word := by
  have either : ∀ woken : Option Instant, Speaks (f woken) fun found word =>
      woken = none ∧ stop found word ∨ woken ≠ none ∧ go found word := by
    intro woken
    cases woken with
    | none => simpa using stops
    | some now => simpa using goes now
  refine speaks_congr _ _ _ (speaks_ask_bind (.await deadline) f _ (fun _ => rfl) either) fun found word => ?_
  constructor
  · rintro (stopping | going)
    · exact ⟨none, .inl ⟨rfl, stopping⟩⟩
    · exact ⟨some deadline, .inr ⟨nofun, going⟩⟩
  · rintro ⟨woken, ⟨-, stopping⟩ | ⟨-, going⟩⟩
    · exact .inl stopping
    · exact .inr going

-- Faults of what is lifted may be handled, but not so that a value is returned after all.
theorem speaks_lift_bind (p : Procedure α) (f : Except Fault α → Procedure β) (language : α → List Event → Prop)
    (next : α → β → List Event → Prop) (first : Speaks p language)
    (rest : ∀ value, Speaks (f (.ok value)) (next value)) (fails : ∀ fault, Speaks (f (.error fault)) fun _ _ => False) :
    Speaks (ExceptT.lift p.run >>= f) fun found word =>
      ∃ value head tail, language value head ∧ next value found tail ∧ word = head ++ tail := by
  intro found word
  constructor
  · rintro ⟨value, head, tail, said, later, rfl⟩
    obtain ⟨before, begun, rfl⟩ := (first value head).mp said
    obtain ⟨after, ended, rfl⟩ := (rest value found tail).mp later
    refine ⟨before ++ after, (traced_lift_bind p f _ _).mpr (.inl ?_), called_append before after⟩
    exact ⟨.ok value, before, after, begun, ended, rfl⟩
  · rintro ⟨events, traced, rfl⟩
    rcases (traced_lift_bind p f events _).mp traced with
      ⟨outcome, before, after, begun, ended, rfl⟩ | ⟨-, impossible⟩
    · cases outcome with
      | ok value =>
          exact ⟨value, called before, called after, (first value _).mpr ⟨before, begun, rfl⟩,
            (rest value found _).mpr ⟨after, ended, rfl⟩, called_append before after⟩
      | error fault => exact False.elim ((fails fault found _).mpr ⟨after, ended, rfl⟩)
    · cases impossible

end Procedure
end PulseAnalyzer
