import PulseAnalyzer.Proofs.Program.Clock
import PulseAnalyzer.Proofs.Run.Measured

set_option autoImplicit false

namespace PulseAnalyzer

structure Wait where
  asked : Nat
  deadline : Instant
  woken : Option Instant

def Stamp.wait? : Stamp → Option Wait
  | ⟨asked, ⟨.await deadline, woken⟩⟩ => some ⟨asked, deadline, woken⟩
  | _ => none

def waits (l : List Stamp) : List Wait := l.filterMap Stamp.wait?

def begun (rounds : List Wait) : List Instant := rounds.filterMap Wait.woken

theorem waits_append (a b : List Stamp) : waits (a ++ b) = waits a ++ waits b := List.filterMap_append

theorem waits_none (l : List Stamp) (clockless : ∀ e ∈ shown l, e.part ≠ .clock) : waits l = [] := by
  refine List.filterMap_eq_nil_iff.mpr fun x member => ?_
  have other := clockless x.event (List.mem_map_of_mem member)
  unfold Stamp.wait?
  split
  · exact absurd rfl other
  · rfl

-- A budget of rounds, from the time `t` on. They are cancelled after a number of whole rounds, while waiting
-- or at a check within the work, or all of them are done.
inductive Rounds (length : Nat) : Nat → Ticker → Nat → List Stamp → Option Nat → Prop where
  | spent (ticker : Ticker) (t : Nat) : Rounds length 0 ticker t [] none
  | interrupted (budget : Nat) (ticker : Ticker) (t : Nat) :
      Rounds length (budget + 1) ticker t [⟨t, ⟨.await ticker.deadline, none⟩⟩] (some 0)
  | cut (budget : Nat) (ticker : Ticker) (t u : Nat) (work : List Stamp) (v : Nat)
      (woken : u = max t (Bench.wakeMillis ticker.deadline)) (silent : waits work = []) (within : v ≤ u + length) :
      Rounds length (budget + 1) ticker t
        (⟨t, ⟨.await ticker.deadline, some (u * 1000000)⟩⟩ :: (work ++ [⟨v, .checked true⟩])) (some 0)
  | next (budget : Nat) (ticker : Ticker) (t u : Nat) (work rest : List Stamp) (whole : Option Nat)
      (woken : u = max t (Bench.wakeMillis ticker.deadline)) (silent : waits work = [])
      (after : Rounds length budget (ticker.taken (u * 1000000)) (u + length) rest whole) :
      Rounds length (budget + 1) ticker t
        (⟨t, ⟨.await ticker.deadline, some (u * 1000000)⟩⟩ :: (work ++ rest)) (whole.map (· + 1))

structure Wait.OnTime (w : Wait) (deadline : Instant) : Prop where
  due : w.deadline = deadline
  prompt : ∀ now, w.woken = some now → now = Bench.wakeMillis deadline * 1000000

-- The waits of a loop that begins at a time and works so many milliseconds in each round. A round begins
-- once its deadline has come and the round before has ended.
structure Schedule (start : Instant) (period : Duration) (length : Nat) (rounds : List Wait) : Prop where
  grid : ∃ ks : List Nat, ks.Pairwise (· < ·) ∧ (∀ k ∈ ks.head?, k = 0) ∧
    rounds.map Wait.deadline = ks.map (start + · * period.nanos)
  begins : ∀ w ∈ rounds, ∀ now, w.woken = some now →
    w.deadline ≤ now ∧ now = max w.asked (Bench.wakeMillis w.deadline) * 1000000
  follows : ∀ i before w, rounds[i]? = some before → rounds[i + 1]? = some w →
    before.woken.map (· + length * 1000000) = some (w.asked * 1000000)
  spread : ∀ passed, (begun rounds).countP (· ≤ start + passed) ≤ passed / period.nanos + 1
  punctual : length * 1000000 ≤ period.nanos → ∀ i (w : Wait), rounds[i]? = some w → w.OnTime (start + i * period.nanos)

theorem waits_round (t : Nat) (deadline : Instant) (woken : Option Instant) (work rest : List Stamp)
    (silent : waits work = []) :
    waits (⟨t, ⟨.await deadline, woken⟩⟩ :: (work ++ rest)) = ⟨t, deadline, woken⟩ :: waits rest := by
  change _ :: waits (work ++ rest) = _
  rw [waits_append, silent, List.nil_append]

theorem work_within (deadline length : Nat) (period : Duration) (fits : length * 1000000 ≤ period.nanos) :
    Bench.wakeMillis deadline + length ≤ Bench.wakeMillis (deadline + period.nanos) := by
  rw [← wake_add]
  exact wake_mono _ _ (Nat.add_le_add_left fits deadline)

-- A tick that is not taken early is followed by a later one of the same grid.
theorem taken_further (start : Nat) (period : Duration) (k now : Nat) (due : start + k * period.nanos ≤ now) :
    ∃ skipped, (Ticker.startingAt (start + k * period.nanos) period).taken now =
      .startingAt (start + (k + (skipped + 1)) * period.nanos) period := by
  obtain ⟨skipped, taken⟩ := Ticker.taken_on_grid (start + k * period.nanos) period now due
  refine ⟨skipped, ?_⟩
  rw [taken, Nat.add_mul k, Nat.add_assoc]

section rounds
variable {length : Nat}

theorem rounds_on_grid (start : Nat) (period : Duration) (k budget : Nat) (ticker : Ticker) (t : Nat) (l : List Stamp)
    (whole : Option Nat) (rounds : Rounds length budget ticker t l whole)
    (starts : ticker = .startingAt (start + k * period.nanos) period) :
    ∃ ks : List Nat, ks.Pairwise (· < ·) ∧ (∀ j ∈ ks.head?, j = k) ∧ (∀ j ∈ ks, k ≤ j) ∧
      (waits l).map Wait.deadline = ks.map (start + · * period.nanos) := by
  induction rounds generalizing k with
  | spent ticker t => exact ⟨[], .nil, nofun, List.forall_mem_nil _, rfl⟩
  | interrupted budget ticker t =>
      subst starts
      exact ⟨[k], List.pairwise_singleton _ k, by simp, by simp, rfl⟩
  | cut budget ticker t u work v woken silent within =>
      subst starts
      refine ⟨[k], List.pairwise_singleton _ k, by simp, by simp, ?_⟩
      rw [waits_round _ _ _ _ _ silent]
      rfl
  | next budget ticker t u work rest whole woken silent after ih =>
      subst starts
      have due : start + k * period.nanos ≤ u * 1000000 := woken ▸ due_at_wake t (start + k * period.nanos)
      obtain ⟨skipped, taken⟩ := taken_further start period k (u * 1000000) due
      obtain ⟨ks, increasing, -, later, same⟩ := ih (k + (skipped + 1)) taken
      have above : ∀ j ∈ ks, k < j := fun j member => by have bound := later j member; omega
      refine ⟨k :: ks, List.pairwise_cons.mpr ⟨above, increasing⟩, by simp, ?_, ?_⟩
      · exact List.forall_mem_cons.mpr ⟨Nat.le_refl k, fun j member => Nat.le_of_lt (above j member)⟩
      · rw [waits_round _ _ _ _ _ silent, List.map_cons, same]
        rfl

theorem round_begins (t : Nat) (deadline : Instant) (u : Nat) (woken : u = max t (Bench.wakeMillis deadline)) :
    ∀ now, (⟨t, deadline, some (u * 1000000)⟩ : Wait).woken = some now →
      deadline ≤ now ∧ now = max t (Bench.wakeMillis deadline) * 1000000 := by
  intro now same
  cases same
  subst woken
  exact ⟨due_at_wake t deadline, rfl⟩

theorem rounds_begin (budget : Nat) (ticker : Ticker) (t : Nat) (l : List Stamp) (whole : Option Nat)
    (rounds : Rounds length budget ticker t l whole) :
    ∀ w ∈ waits l, ∀ now, w.woken = some now →
      w.deadline ≤ now ∧ now = max w.asked (Bench.wakeMillis w.deadline) * 1000000 := by
  induction rounds with
  | spent ticker t => exact List.forall_mem_nil _
  | interrupted budget ticker t => exact List.forall_mem_cons.mpr ⟨nofun, List.forall_mem_nil _⟩
  | cut budget ticker t u work v woken silent within =>
      rw [waits_round _ _ _ _ _ silent]
      exact List.forall_mem_cons.mpr ⟨round_begins t ticker.deadline u woken, List.forall_mem_nil _⟩
  | next budget ticker t u work rest whole woken silent after ih =>
      rw [waits_round _ _ _ _ _ silent]
      exact List.forall_mem_cons.mpr ⟨round_begins t ticker.deadline u woken, ih⟩

theorem rounds_first (budget : Nat) (ticker : Ticker) (t : Nat) (l : List Stamp) (whole : Option Nat)
    (rounds : Rounds length budget ticker t l whole) : ∀ w, (waits l)[0]? = some w → w.asked = t := by
  intro w first
  cases rounds with
  | spent => cases first
  | interrupted =>
      cases first
      rfl
  | cut _ _ _ u work v woken silent within | next _ _ _ u work rest whole woken silent after =>
      rw [waits_round _ _ _ _ _ silent] at first
      cases first
      rfl

theorem rounds_follow (budget : Nat) (ticker : Ticker) (t : Nat) (l : List Stamp) (whole : Option Nat)
    (rounds : Rounds length budget ticker t l whole) :
    ∀ i before w, (waits l)[i]? = some before → (waits l)[i + 1]? = some w →
      before.woken.map (· + length * 1000000) = some (w.asked * 1000000) := by
  induction rounds with
  | spent ticker t => nofun
  | interrupted budget ticker t => nofun
  | cut budget ticker t u work v woken silent within =>
      rw [waits_round _ _ _ _ _ silent]
      nofun
  | next budget ticker t u work rest whole woken silent after ih =>
      rw [waits_round _ _ _ _ _ silent]
      intro i before w here there
      cases i with
      | zero =>
          cases here
          have asked := rounds_first budget _ (u + length) rest whole after w there
          rw [asked, Nat.add_mul]
          rfl
      | succ i => exact ih i before w here there

theorem begun_round (t : Nat) (deadline : Instant) (now : Instant) (rest : List Wait) :
    begun (⟨t, deadline, some now⟩ :: rest) = now :: begun rest := rfl

theorem spread_round (start : Nat) (period : Duration) (positive : 0 < period.nanos) (passed k now : Nat)
    (due : start + k * period.nanos ≤ now) (rest : List Instant)
    (few : rest.countP (· ≤ start + passed) ≤ passed / period.nanos - k) :
    (now :: rest).countP (· ≤ start + passed) ≤ passed / period.nanos + 1 - k := by
  rw [List.countP_cons]
  split
  · rename_i early
    have past : now ≤ start + passed := by simpa using early
    have reached : k ≤ passed / period.nanos := (Nat.le_div_iff_mul_le positive).mpr (by omega)
    omega
  · omega

-- Each deadline that has passed is that of at most one round.
theorem rounds_spread (start : Nat) (period : Duration) (positive : 0 < period.nanos) (passed k budget : Nat)
    (ticker : Ticker) (t : Nat) (l : List Stamp) (whole : Option Nat) (rounds : Rounds length budget ticker t l whole)
    (starts : ticker = .startingAt (start + k * period.nanos) period) :
    (begun (waits l)).countP (· ≤ start + passed) ≤ passed / period.nanos + 1 - k := by
  induction rounds generalizing k with
  | spent ticker t => exact Nat.zero_le _
  | interrupted budget ticker t => exact Nat.zero_le _
  | cut budget ticker t u work v woken silent within =>
      subst starts
      have due : start + k * period.nanos ≤ u * 1000000 := woken ▸ due_at_wake t (start + k * period.nanos)
      rw [waits_round _ _ _ _ _ silent]
      exact spread_round start period positive passed k _ due [] (Nat.zero_le _)
  | next budget ticker t u work rest whole woken silent after ih =>
      subst starts
      have due : start + k * period.nanos ≤ u * 1000000 := woken ▸ due_at_wake t (start + k * period.nanos)
      obtain ⟨skipped, taken⟩ := taken_further start period k (u * 1000000) due
      have few := ih (k + (skipped + 1)) taken
      rw [waits_round _ _ _ _ _ silent]
      exact spread_round start period positive passed k _ due _ (Nat.le_trans few (by omega))

section within
variable (period : Duration) (fits : length * 1000000 ≤ period.nanos)
include fits

theorem next_in_time (deadline t u : Nat) (ahead : t ≤ Bench.wakeMillis deadline)
    (woken : u = max t (Bench.wakeMillis deadline)) :
    u = Bench.wakeMillis deadline ∧ u + length ≤ Bench.wakeMillis (deadline + period.nanos) ∧
      (Ticker.startingAt deadline period).taken (u * 1000000) = .startingAt (deadline + period.nanos) period := by
  obtain rfl : u = Bench.wakeMillis deadline := woken.trans (Nat.max_eq_right ahead)
  exact ⟨rfl, work_within deadline length period fits, Ticker.taken_at_wake deadline period⟩

theorem rounds_punctual (deadline budget : Nat) (ticker : Ticker) (t : Nat) (l : List Stamp) (whole : Option Nat)
    (rounds : Rounds length budget ticker t l whole) (starts : ticker = .startingAt deadline period)
    (ahead : t ≤ Bench.wakeMillis deadline) :
    ∀ i (w : Wait), (waits l)[i]? = some w → w.OnTime (deadline + i * period.nanos) := by
  induction rounds generalizing deadline with
  | spent ticker t => nofun
  | interrupted budget ticker t =>
      subst starts
      rintro (_ | i) w here
      · cases here
        exact ⟨(grid_first deadline period.nanos).symm, nofun⟩
      · cases here
  | cut budget ticker t u work v woken silent within =>
      subst starts
      obtain ⟨rfl, -, -⟩ := next_in_time period fits deadline t u ahead woken
      rw [waits_round _ _ _ _ _ silent]
      rintro (_ | i) w here
      · cases here
        rw [grid_first]
        exact ⟨rfl, fun now same => (Option.some.inj same).symm⟩
      · cases here
  | next budget ticker t u work rest whole woken silent after ih =>
      subst starts
      obtain ⟨rfl, further, taken⟩ := next_in_time period fits deadline t u ahead woken
      rw [waits_round _ _ _ _ _ silent]
      rintro (_ | i) w here
      · cases here
        rw [grid_first]
        exact ⟨rfl, fun now same => (Option.some.inj same).symm⟩
      · rw [grid_next]
        exact ih (deadline + period.nanos) taken further i w here

theorem rounds_reach (due : Option Nat) (deadline budget : Nat) (ticker : Ticker) (t : Nat) (l : List Stamp)
    (whole : Option Nat) (rounds : Rounds length budget ticker t l whole) (starts : ticker = .startingAt deadline period)
    (ahead : t ≤ Bench.wakeMillis deadline) (heeds : ∀ x ∈ l, ∃ u, x.event.Heeds due x.millis u) (i : Nat) (few : i < budget)
    (early : ∀ c, due = some c → Bench.wakeMillis (deadline + i * period.nanos) < c) :
    (begun (waits l))[i]? = some (Bench.wakeMillis (deadline + i * period.nanos) * 1000000) := by
  induction rounds generalizing deadline i with
  | spent ticker t => exact absurd few (Nat.not_lt_zero i)
  | interrupted budget ticker t =>
      subst starts
      obtain ⟨u, c, planned, -, late⟩ := heeds _ List.mem_cons_self
      have before := early c planned
      have later := wake_mono deadline _ (Nat.le_add_right deadline (i * period.nanos))
      rw [Ticker.startingAt, Nat.max_eq_right ahead] at late
      omega
  | cut budget ticker t u work v woken silent within =>
      subst starts
      obtain ⟨rfl, further, -⟩ := next_in_time period fits deadline t u ahead woken
      rw [waits_round _ _ _ _ _ silent]
      cases i with
      | zero =>
          rw [grid_first]
          rfl
      | succ i =>
          obtain ⟨u, told⟩ := heeds ⟨v, .checked true⟩ (by simp)
          rw [grid_next] at early
          have later := wake_mono _ _ (Nat.le_add_right (deadline + period.nanos) (i * period.nanos))
          exact absurd told (unchecked_early due v u fun c planned => by have before := early c planned; omega)
  | next budget ticker t u work rest whole woken silent after ih =>
      subst starts
      obtain ⟨rfl, further, taken⟩ := next_in_time period fits deadline t u ahead woken
      rw [waits_round _ _ _ _ _ silent]
      cases i with
      | zero =>
          rw [grid_first]
          rfl
      | succ i =>
          rw [grid_next] at early ⊢
          have others : ∀ x ∈ rest, ∃ u, x.event.Heeds due x.millis u := fun x member => heeds x (by simp [member])
          exact ih (deadline + period.nanos) taken further others i (Nat.lt_of_succ_lt_succ few) early

end within

theorem rounds_complete (budget : Nat) (ticker : Ticker) (t : Nat) (l : List Stamp) (whole : Option Nat)
    (rounds : Rounds length budget ticker t l whole) (heeds : ∀ x ∈ l, ∃ u, x.event.Heeds none x.millis u) :
    (begun (waits l)).length = budget := by
  induction rounds with
  | spent ticker t => rfl
  | interrupted budget ticker t =>
      obtain ⟨u, c, impossible, -⟩ := heeds _ List.mem_cons_self
      cases impossible
  | cut budget ticker t u work v woken silent within =>
      obtain ⟨u, told⟩ := heeds ⟨v, .checked true⟩ (by simp)
      exact absurd told (unchecked_early none v u nofun)
  | next budget ticker t u work rest whole woken silent after ih =>
      rw [waits_round _ _ _ _ _ silent, begun_round, List.length_cons]
      exact congrArg (· + 1) (ih fun x member => heeds x (by simp [member]))

end rounds

theorem rounds_schedule (start length : Nat) (period : Duration) (positive : 0 < period.nanos) (budget t : Nat)
    (now : t * 1000000 = start) (l : List Stamp) (whole : Option Nat)
    (rounds : Rounds length budget (.startingAt start period) t l whole) :
    Schedule start period length (waits l) := by
  have starts : Ticker.startingAt start period = .startingAt (start + 0 * period.nanos) period := by rw [grid_first]
  have ahead : t ≤ Bench.wakeMillis start := Nat.le_of_eq (by rw [← now, wake_of_millis])
  obtain ⟨ks, increasing, zero, -, same⟩ := rounds_on_grid start period 0 budget _ t l whole rounds starts
  exact {
    grid := ⟨ks, increasing, zero, same⟩
    begins := rounds_begin budget _ t l whole rounds
    follows := rounds_follow budget _ t l whole rounds
    spread := fun passed => rounds_spread start period positive passed 0 budget _ t l whole rounds starts
    punctual := fun fits => rounds_punctual period fits start budget _ t l whole rounds rfl ahead }

end PulseAnalyzer
