import PulseAnalyzer.Proofs.Run.Event
import PulseAnalyzer.Proofs.Time.Grid

set_option autoImplicit false

namespace PulseAnalyzer

structure Stamp where
  millis : Nat
  event : Event

-- From when a request is asked to when it is answered.
abbrev Pace := Nat → Event → Nat → Prop

def shown (l : List Stamp) : List Event := l.map Stamp.event

def calledAt (l : List Stamp) : List (Nat × Acquisition.Call) :=
  l.filterMap fun x => x.event.call?.map (x.millis, ·)

theorem shown_append (a b : List Stamp) : shown (a ++ b) = shown a ++ shown b := List.map_append

theorem called_at_append (a b : List Stamp) : calledAt (a ++ b) = calledAt a ++ calledAt b := List.filterMap_append

theorem called_at_silent (x : Stamp) (rest : List Stamp) (silent : x.event.call? = none) :
    calledAt (x :: rest) = calledAt rest := by
  rw [calledAt, List.filterMap_cons, silent]
  rfl

theorem called_at_one (millis : Nat) (e : Event) (call : Acquisition.Call) (found : e.call? = some call) :
    calledAt [⟨millis, e⟩] = [(millis, call)] :=
  List.filterMap_cons_some (by rw [found]; rfl)

inductive Paced (pace : Pace) : Nat → List Stamp → Nat → Prop where
  | nil (t : Nat) : Paced pace t [] t
  | cons (t : Nat) (e : Event) (u : Nat) (rest : List Stamp) (v : Nat) (step : pace t e u)
      (after : Paced pace u rest v) : Paced pace t (⟨t, e⟩ :: rest) v

theorem paced_nil_iff (pace : Pace) (t v : Nat) : Paced pace t [] v ↔ v = t := by
  constructor
  · intro paced
    cases paced
    rfl
  · rintro rfl
    exact .nil v

theorem paced_cons_iff (pace : Pace) (t : Nat) (x : Stamp) (rest : List Stamp) (v : Nat) :
    Paced pace t (x :: rest) v ↔ x.millis = t ∧ ∃ u, pace t x.event u ∧ Paced pace u rest v := by
  constructor
  · intro paced
    cases paced with
    | cons _ e u _ _ step after => exact ⟨rfl, u, step, after⟩
  · rintro ⟨rfl, u, step, after⟩
    exact .cons x.millis x.event u rest v step after

theorem paced_append_iff (pace : Pace) (t : Nat) (a b : List Stamp) (v : Nat) :
    Paced pace t (a ++ b) v ↔ ∃ u, Paced pace t a u ∧ Paced pace u b v := by
  induction a generalizing t with
  | nil =>
      constructor
      · intro paced
        exact ⟨t, .nil t, paced⟩
      · rintro ⟨u, nothing, paced⟩
        cases (paced_nil_iff pace t u).mp nothing
        exact paced
  | cons x rest ih =>
      rw [List.cons_append, paced_cons_iff]
      constructor
      · rintro ⟨asked, w, step, after⟩
        obtain ⟨u, first, second⟩ := (ih w).mp after
        exact ⟨u, (paced_cons_iff _ _ _ _ _).mpr ⟨asked, w, step, first⟩, second⟩
      · rintro ⟨u, whole, second⟩
        obtain ⟨asked, w, step, first⟩ := (paced_cons_iff _ _ _ _ _).mp whole
        exact ⟨asked, w, step, (ih w).mpr ⟨u, first, second⟩⟩

theorem paced_shown_cons (pace : Pace) (t : Nat) (l : List Stamp) (v : Nat) (paced : Paced pace t l v) (e : Event)
    (events : List Event) (split : shown l = e :: events) :
    ∃ u rest, l = ⟨t, e⟩ :: rest ∧ pace t e u ∧ shown rest = events ∧ Paced pace u rest v := by
  obtain ⟨x, rest, rfl, rfl, rfl⟩ := List.map_eq_cons_iff.mp split
  obtain ⟨rfl, u, step, later⟩ := (paced_cons_iff pace t x rest v).mp paced
  exact ⟨u, rest, rfl, step, rfl, later⟩

theorem paced_shown_append (pace : Pace) (t : Nat) (l : List Stamp) (v : Nat) (paced : Paced pace t l v)
    (first second : List Event) (split : shown l = first ++ second) :
    ∃ u a b, l = a ++ b ∧ shown a = first ∧ shown b = second ∧ Paced pace t a u ∧ Paced pace u b v := by
  obtain ⟨a, b, rfl, rfl, rfl⟩ := List.map_eq_append_iff.mp split
  obtain ⟨u, early, late⟩ := (paced_append_iff pace t a b v).mp paced
  exact ⟨u, a, b, rfl, rfl, rfl, early, late⟩

theorem paced_each (pace : Pace) (t : Nat) (l : List Stamp) (v : Nat) (paced : Paced pace t l v) :
    ∀ x ∈ l, ∃ u, pace x.millis x.event u := by
  induction paced with
  | nil t => exact List.forall_mem_nil _
  | cons t e u rest v step _ ih => exact List.forall_mem_cons.mpr ⟨⟨u, step⟩, ih⟩

theorem paced_ordered (pace : Pace) (onward : ∀ t e u, pace t e u → t ≤ u) (t : Nat) (l : List Stamp) (v : Nat)
    (paced : Paced pace t l v) : (∀ x ∈ l, t ≤ x.millis) ∧ l.Pairwise fun x y => x.millis ≤ y.millis := by
  induction paced with
  | nil t => exact ⟨List.forall_mem_nil _, .nil⟩
  | cons t e u rest v step _ ih =>
      obtain ⟨late, ordered⟩ := ih
      have later : ∀ x ∈ rest, t ≤ x.millis := fun x member => Nat.le_trans (onward t e u step) (late x member)
      exact ⟨List.forall_mem_cons.mpr ⟨Nat.le_refl t, later⟩, List.pairwise_cons.mpr ⟨later, ordered⟩⟩

theorem paced_begin (pace other : Pace) (t w : Nat) (l : List Stamp) (v : Nat) (first : Paced pace t l v)
    (second : Paced other w l v) : t = w := by
  cases first with
  | nil => exact (paced_nil_iff other w t).mp second
  | cons => exact ((paced_cons_iff other w _ _ v).mp second).1

theorem paced_both (pace other : Pace) (t : Nat) (l : List Stamp) (v : Nat) (first : Paced pace t l v)
    (second : Paced other t l v) : Paced (fun t e u => pace t e u ∧ other t e u) t l v := by
  induction first with
  | nil t => exact .nil t
  | cons t e u rest v step after ih =>
      obtain ⟨-, w, also, later⟩ := (paced_cons_iff _ _ _ _ _).mp second
      cases paced_begin pace other u w rest v after later
      exact .cons t e u rest v ⟨step, also⟩ (ih later)

namespace Program

variable {α σ : Type} (answer : (r : Request) → σ → r.Answer × σ) (millis : σ → Nat)

def timeline : Program α → σ → List Stamp
  | .done _, _ => []
  | .ask r next, s =>
    let step := answer r s
    ⟨millis s, ⟨r, step.1⟩⟩ :: timeline (next step.1) step.2
  | .spent, _ => []

theorem timeline_shown (p : Program α) (s : σ) : shown (timeline answer millis p s) = history answer p s := by
  induction p generalizing s with
  | done value => rfl
  | spent => rfl
  | ask r next ih => exact congrArg (List.cons _) (ih (answer r s).1 (answer r s).2)

theorem timeline_bind {β : Type} (p : Program α) (f : α → Program β) (s : σ) :
    timeline answer millis (p.bind f) s = timeline answer millis p s ++ match run answer p s with
      | (some value, t) => timeline answer millis (f value) t
      | (none, _) => [] := by
  induction p generalizing s with
  | done value => rfl
  | ask r next ih => exact congrArg (List.cons _) (ih (answer r s).1 (answer r s).2)
  | spent => rfl

def Keeps (pace : Pace) (p : Program α) (s : σ) : Prop :=
  Paced pace (millis s) (timeline answer millis p s) (millis (run answer p s).2)

theorem keeps_of_steps (pace : Pace) (usual : σ → Prop)
    (steps : ∀ s, usual s → ∀ r, usual (answer r s).2 ∧ pace (millis s) ⟨r, (answer r s).1⟩ (millis (answer r s).2))
    (p : Program α) (s : σ) (here : usual s) : Keeps answer millis pace p s := by
  induction p generalizing s with
  | done value => exact .nil _
  | spent => exact .nil _
  | ask r next ih =>
      obtain ⟨there, step⟩ := steps s here r
      exact .cons _ _ _ _ _ step (ih (answer r s).1 (answer r s).2 there)

end Program

namespace Procedure

variable {α β : Type} {pace : Pace}

structure Clocked (pace : Pace) (p : Procedure α) (t : Nat) (l : List Stamp) (result : Option (Except Fault α))
    (v : Nat) : Prop where
  traced : p.Traced (shown l) result
  paced : Paced pace t l v

theorem clocked_nil (p : Procedure α) (t : Nat) (l : List Stamp) (result : Option (Except Fault α)) (v : Nat)
    (clocked : p.Clocked pace t l result v) (nothing : shown l = []) : l = [] ∧ v = t := by
  have empty := List.map_eq_nil_iff.mp nothing
  rw [empty] at clocked
  exact ⟨empty, (paced_nil_iff pace t v).mp clocked.paced⟩

theorem clocked_pure (value : α) (t : Nat) (l : List Stamp) (result : Option (Except Fault α)) (v : Nat)
    (clocked : (pure value : Procedure α).Clocked pace t l result v) : l = [] ∧ v = t ∧ result = some (.ok value) := by
  obtain ⟨nothing, same⟩ := (traced_pure value _ result).mp clocked.traced
  obtain ⟨empty, still⟩ := clocked_nil _ t l result v clocked nothing
  exact ⟨empty, still, same⟩

theorem clocked_spent (t : Nat) (l : List Stamp) (result : Option (Except Fault α)) (v : Nat)
    (clocked : Clocked pace (ExceptT.mk .spent : Procedure α) t l result v) : l = [] ∧ v = t ∧ result = none := by
  obtain ⟨nothing, same⟩ := (traced_spent _ result).mp clocked.traced
  obtain ⟨empty, still⟩ := clocked_nil _ t l result v clocked nothing
  exact ⟨empty, still, same⟩

theorem clocked_ask_bind (r : Request) (f : r.Answer → Procedure β) (t : Nat) (l : List Stamp)
    (result : Option (Except Fault β)) (v : Nat) (clocked : (ask r >>= f).Clocked pace t l result v) :
    ∃ answer u rest, l = ⟨t, ⟨r, answer⟩⟩ :: rest ∧ pace t ⟨r, answer⟩ u ∧ (f answer).Clocked pace u rest result v := by
  obtain ⟨answer, events, after, split⟩ := (traced_ask_bind r f _ result).mp clocked.traced
  obtain ⟨u, rest, same, step, rfl, later⟩ := paced_shown_cons pace t l v clocked.paced _ events split
  exact ⟨answer, u, rest, same, step, after, later⟩

theorem clocked_api_bind (call : Acquisition.Call) (f : call.Value → Procedure β) (t : Nat) (l : List Stamp)
    (result : Option (Except Fault β)) (v : Nat) (clocked : (api call >>= f).Clocked pace t l result v) :
    (∃ value u rest, l = ⟨t, .success call value⟩ :: rest ∧ pace t (.success call value) u ∧
      (f value).Clocked pace u rest result v) ∨
    (∃ code, l = [⟨t, .failure call code⟩] ∧ pace t (.failure call code) v ∧
      result = some (.error (.device call.title code))) := by
  rcases (traced_api_bind call f _ result).mp clocked.traced with ⟨value, events, after, split⟩ | ⟨code, split, same⟩
  · obtain ⟨u, rest, same, step, rfl, later⟩ := paced_shown_cons pace t l v clocked.paced _ events split
    exact .inl ⟨value, u, rest, same, step, after, later⟩
  · obtain ⟨u, rest, rfl, step, nothing, later⟩ := paced_shown_cons pace t l v clocked.paced _ [] split
    cases List.map_eq_nil_iff.mp nothing
    cases (paced_nil_iff pace u v).mp later
    exact .inr ⟨code, rfl, step, same⟩

theorem clocked_bind (p : Procedure α) (f : α → Procedure β) (t : Nat) (l : List Stamp)
    (result : Option (Except Fault β)) (v : Nat) (clocked : (p >>= f).Clocked pace t l result v) :
    (∃ value u a b, p.Clocked pace t a (some (.ok value)) u ∧ (f value).Clocked pace u b result v ∧ l = a ++ b) ∨
    (∃ fault, p.Clocked pace t l (some (.error fault)) v ∧ result = some (.error fault)) ∨
    (p.Clocked pace t l none v ∧ result = none) := by
  rcases (traced_bind p f _ result).mp clocked.traced with
    ⟨value, first, rest, begun, after, split⟩ | ⟨fault, failed, same⟩ | ⟨stuck, same⟩
  · obtain ⟨u, a, b, whole, rfl, rfl, early, late⟩ := paced_shown_append pace t l v clocked.paced first rest split
    exact .inl ⟨value, u, a, b, ⟨begun, early⟩, ⟨after, late⟩, whole⟩
  · exact .inr (.inl ⟨fault, ⟨failed, clocked.paced⟩, same⟩)
  · exact .inr (.inr ⟨⟨stuck, clocked.paced⟩, same⟩)

theorem clocked_of_run {σ : Type} (answer : (r : Request) → σ → r.Answer × σ) (millis : σ → Nat) (p : Procedure α) (s : σ)
    (keeps : p.run.Keeps answer millis pace s) :
    p.Clocked pace (millis s) (p.run.timeline answer millis s) (p.run.run answer s).1 (millis (p.run.run answer s).2) := by
  refine ⟨?_, keeps⟩
  rw [Program.timeline_shown]
  exact Program.history_traced answer p.run s

end Procedure

namespace Event

-- How long requests take when no call takes any time. A wait for a deadline ends at the first whole
-- millisecond that is not before it.
def Takes : Pace := fun t e u => match e with
  | ⟨.now, now⟩ => u = t ∧ now = t * 1000000
  | ⟨.pause millis, _⟩ => u = t + millis
  | ⟨.await deadline, some now⟩ => u = max t (Bench.wakeMillis deadline) ∧ now = u * 1000000
  | ⟨.await _, none⟩ => t ≤ u
  | _ => u = t

def paused : Event → Nat
  | ⟨.pause millis, _⟩ => millis
  | _ => 0

-- How requests are answered that is cancelled at a time, or never. When a deadline falls into the same
-- millisecond, either may come first.
def Heeds (due : Option Nat) : Pace := fun t e u => match e with
  | ⟨.isCancelled, cancelled⟩ => cancelled = due.any (· ≤ t)
  | ⟨.await deadline, some _⟩ => ∀ c, due = some c → t < c ∧ Bench.wakeMillis deadline ≤ c
  | ⟨.await deadline, none⟩ => ∃ c, due = some c ∧ u = max t c ∧ c ≤ max t (Bench.wakeMillis deadline)
  | _ => True

theorem takes_paused (t : Nat) (e : Event) (u : Nat) (takes : e.Takes t u) (timeless : e.part ≠ .clock) :
    u = t + e.paused := by
  obtain ⟨request, answer⟩ := e
  cases request with
  | now | await deadline => exact absurd rfl timeless
  | _ => exact takes

theorem takes_onward (t : Nat) (e : Event) (u : Nat) (takes : e.Takes t u) : t ≤ u := by
  obtain ⟨request, answer⟩ := e
  cases request with
  | now => exact Nat.le_of_eq takes.1.symm
  | pause millis => exact takes ▸ Nat.le_add_right t millis
  | await deadline =>
      cases answer with
      | none => exact takes
      | some now => exact takes.1 ▸ Nat.le_max_left _ _
  | _ => exact Nat.le_of_eq takes.symm

theorem takes_still (t : Nat) (e : Event) (u : Nat) (takes : e.Takes t u) (timeless : e.part ≠ .clock)
    (here : e.part ≠ .aside) : u = t := by
  obtain ⟨request, answer⟩ := e
  cases request with
  | now | await deadline => exact absurd rfl timeless
  | pause millis => exact absurd rfl here
  | _ => exact takes

end Event

theorem unchecked_early (due : Option Nat) (t u : Nat) (early : ∀ c, due = some c → t < c) :
    ¬ Event.Heeds due t (⟨.isCancelled, true⟩) u := by
  intro told
  cases due with
  | none => cases told
  | some c =>
      have late : c ≤ t := by simpa [Event.Heeds] using told
      exact Nat.not_le_of_lt (early c rfl) late

theorem called_at_still (t : Nat) (l : List Stamp) (still : ∀ x ∈ l, x.millis = t) :
    calledAt l = (calls (shown l)).map (t, ·) := by
  induction l with
  | nil => rfl
  | cons x rest ih =>
      obtain ⟨here, later⟩ := List.forall_mem_cons.mp still
      cases call : x.event.call? with
      | none =>
          have silent : calls (shown (x :: rest)) = calls (shown rest) := List.filterMap_cons_none call
          rw [called_at_silent x rest call, silent, ih later]
      | some call' =>
          have first : calledAt (x :: rest) = (x.millis, call') :: calledAt rest :=
            List.filterMap_cons_some (by rw [call]; rfl)
          have same : calls (shown (x :: rest)) = call' :: calls (shown rest) := List.filterMap_cons_some call
          rw [first, same, here, ih later, List.map_cons]

def pauses : List Event → Nat
  | [] => 0
  | e :: rest => e.paused + pauses rest

theorem pauses_append (a b : List Event) : pauses (a ++ b) = pauses a + pauses b := by
  induction a with
  | nil => exact (Nat.zero_add _).symm
  | cons e rest ih => rw [List.cons_append, pauses, pauses, ih, Nat.add_assoc]

theorem paced_paused (pace : Pace) (takes : ∀ t e u, pace t e u → e.Takes t u) (t : Nat) (l : List Stamp) (v : Nat)
    (paced : Paced pace t l v) (timeless : ∀ e ∈ shown l, e.part ≠ .clock) : v = t + pauses (shown l) := by
  induction paced with
  | nil t => rfl
  | cons t e u rest v step after ih =>
      obtain ⟨here, later⟩ := List.forall_mem_cons.mp timeless
      rw [ih later, e.takes_paused t u (takes t e u step) here, Nat.add_assoc]
      rfl

theorem paced_still (pace : Pace) (takes : ∀ t e u, pace t e u → e.Takes t u) (t : Nat) (l : List Stamp) (v : Nat)
    (paced : Paced pace t l v) (still : ∀ e ∈ shown l, e.part ≠ .clock ∧ e.part ≠ .aside) :
    v = t ∧ ∀ x ∈ l, x.millis = t := by
  induction paced with
  | nil t => exact ⟨rfl, List.forall_mem_nil _⟩
  | cons t e u rest v step after ih =>
      obtain ⟨⟨timeless, here⟩, later⟩ := List.forall_mem_cons.mp still
      cases e.takes_still t u (takes t e u step) timeless here
      obtain ⟨ended, same⟩ := ih later
      exact ⟨ended, List.forall_mem_cons.mpr ⟨rfl, same⟩⟩

end PulseAnalyzer
