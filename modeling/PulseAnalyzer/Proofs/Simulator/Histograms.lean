import Mathlib
import PulseAnalyzer.Proofs.Run.Event
import PulseAnalyzer.Proofs.Simulator.Attempts
import PulseAnalyzer.Proofs.Simulator.Draws

set_option autoImplicit false

namespace PulseAnalyzer

namespace Event

def bins : Event → Nat
  | ⟨.api (.spectrum _ length), .ok _⟩ => length
  | ⟨.api (.snapshotSpectrum _ length), .ok _⟩ => length
  | _ => 0

def clears? : Event → Option Bool
  | ⟨.api (.special _ (.snapshot clear)), .ok _⟩ => some clear
  | _ => none

def startsAfresh : Event → Bool
  | ⟨.api (.startRun _ resume), .ok _⟩ => !resume
  | _ => false

end Event

def binsRead (answers : Answers) : Nat := (answers.map fun x => x.2.bins).sum

def snapshotsOf (answers : Answers) : List Bool := answers.filterMap fun x => x.2.clears?

def snapshotsKept (answers : Answers) : Nat :=
  (snapshotsOf (answers.rtakeWhile fun x => !x.2.startsAfresh)).length

def starts (answers : Answers) : List Instant :=
  answers.filterMap fun x => if x.2.isStarted then some x.1 else none

-- Before the first snapshot all is clear. Without a check the count of snapshots is one of 32 bits.
def countedExposure (checked : Bool) (answers : Answers) : Float :=
  let counted := if checked then snapshotsKept answers else snapshotsKept answers % UInt32.size
  if (snapshotsOf answers).getLast?.getD true then 1.0 else Float.ofNat (max counted 1)

def timedExposure (starts : List Instant) (now : Instant) : Float :=
  match starts.getLast? with
  | some time => SimulatedApi.atLeast 1.0 (Duration.toSecs ⟨now - time⟩)
  | none => 1.0

section one
variable (answers : Answers) (now : Instant) (e : Event)

theorem bins_read_one : binsRead (answers ++ [(now, e)]) = binsRead answers + e.bins := by
  simp [binsRead]

theorem snapshots_of_one : snapshotsOf (answers ++ [(now, e)]) = snapshotsOf answers ++ e.clears?.toList := by
  rw [snapshotsOf, List.filterMap_append]
  cases taken : e.clears? <;> simp [snapshotsOf, taken]

theorem snapshots_kept_one : snapshotsKept (answers ++ [(now, e)]) =
    if e.startsAfresh then 0 else snapshotsKept answers + e.clears?.toList.length := by
  cases afresh : e.startsAfresh with
  | true =>
      rw [snapshotsKept, List.rtakeWhile_concat_neg _ _ _ (by simp [afresh])]
      rfl
  | false =>
      rw [snapshotsKept, List.rtakeWhile_concat_pos _ _ _ (by simp [afresh]), snapshots_of_one, List.length_append]
      rfl

theorem starts_one : starts (answers ++ [(now, e)]) = starts answers ++ (if e.isStarted then [now] else []) := by
  rw [starts, List.filterMap_append]
  cases begun : e.isStarted <;> simp [starts, begun]

end one

namespace SimulatedApi
open Acquisition

structure Leaves (s : SimulatedApi) (now : Instant) (e : Event) (t : SimulatedApi) : Prop where
  key : t.key = s.key
  drawn : t.drawn = s.drawn + e.bins
  started : t.startedAt = if e.isStarted then some now else s.startedAt
  snapshots : t.snapshots = if e.startsAfresh then 0 else s.snapshots + UInt32.ofNat e.clears?.toList.length
  cleared : t.lastClear = e.clears?.getD s.lastClear

theorem refused_leaves (s : SimulatedApi) (now : Instant) (call : Call) (code : Int) (injection : Injection) :
    s.Leaves now (.failure call code) (s.logged call injection) := by
  have unchanged : s.snapshots = s.snapshots + 0 := (UInt32.add_zero _).symm
  cases call with
  | special target run => cases run <;> exact ⟨rfl, rfl, rfl, unchanged, rfl⟩
  | _ => exact ⟨rfl, rfl, rfl, unchanged, rfl⟩

theorem perform_leaves (s : SimulatedApi) (now : Instant) (call : Call) :
    s.Leaves now (.success call (s.perform now call).1) (s.perform now call).2 := by
  have unchanged : s.snapshots = s.snapshots + 0 := (UInt32.add_zero _).symm
  cases call with
  | startRun target resume =>
      cases resume with
      | true => exact ⟨rfl, rfl, rfl, unchanged, rfl⟩
      | false => exact ⟨rfl, rfl, rfl, rfl, rfl⟩
  | runActive channel =>
      obtain ⟨script, running, same⟩ := s.poll_changes now channel
      change s.Leaves now (.success (.runActive channel) (s.poll now channel).1) (s.poll now channel).2
      rw [same]
      exact ⟨rfl, rfl, rfl, unchanged, rfl⟩
  | special target run =>
      cases run with
      | snapshot clear => exact ⟨rfl, rfl, rfl, rfl, rfl⟩
      | adcTrace period => exact ⟨rfl, rfl, rfl, unchanged, rfl⟩
  | _ => exact ⟨rfl, rfl, rfl, unchanged, rfl⟩

theorem done_leaves (s : SimulatedApi) (now : Instant) (call : Call) (injection : Injection) :
    s.Leaves now (.success call ((s.logged call injection).perform now call).1)
      ((s.logged call injection).perform now call).2 := by
  obtain ⟨key, drawn, started, snapshots, cleared⟩ := (s.logged call injection).perform_leaves now call
  exact ⟨key, drawn, started, snapshots, cleared⟩

structure Account (key : Noise.Key) (checked : Bool) (answers : Answers) (s : SimulatedApi) : Prop where
  key : s.key = key
  drawn : s.drawn = binsRead answers
  started : s.startedAt = (starts answers).getLast?
  snapshots : s.snapshots = UInt32.ofNat (snapshotsKept answers)
  cleared : s.lastClear = (snapshotsOf answers).getLast?.getD true
  bounded : checked = true → snapshotsKept answers < UInt32.size

theorem counter_room (count : Nat) (bound : count < UInt32.size) (room : UInt32.ofNat count + 1 ≠ 0) :
    count + 1 < UInt32.size := by
  by_contra full
  have last : count + 1 = UInt32.size := Nat.le_antisymm bound (Nat.le_of_not_lt full)
  have wrapped : UInt32.ofNat count + 1 = UInt32.ofNat (count + 1) := (UInt32.ofNat_add count 1).symm
  rw [wrapped, last] at room
  exact room rfl

section account
variable (key : Noise.Key) (checked : Bool) (told : Answers) (s : SimulatedApi) (account : Account key checked told s)
include account

theorem refused_bounded (now : Instant) (call : Call) (code : Int) (enforced : checked = true) :
    snapshotsKept (told ++ [(now, .failure call code)]) < UInt32.size := by
  have room := account.bounded enforced
  rw [snapshots_kept_one]
  cases call with
  | special target run => cases run <;> exact room
  | _ => exact room

theorem done_bounded (now : Instant) (call : Call) (value : call.Value) (enforced : checked = true)
    (fits : s.overflows call = false) : snapshotsKept (told ++ [(now, .success call value)]) < UInt32.size := by
  have room := account.bounded enforced
  rw [snapshots_kept_one]
  split
  · exact Nat.zero_lt_succ _
  · cases call with
    | special target run =>
        cases run with
        | adcTrace period => exact room
        | snapshot clear =>
            have unwrapped : s.snapshots + 1 ≠ 0 := of_decide_eq_false fits
            rw [account.snapshots] at unwrapped
            exact counter_room _ room unwrapped
    | _ => exact room

theorem account_left (now : Instant) (e : Event) (t : SimulatedApi) (left : s.Leaves now e t)
    (bounded : checked = true → snapshotsKept (told ++ [(now, e)]) < UInt32.size) :
    Account key checked (told ++ [(now, e)]) t := by
  refine ⟨?_, ?_, ?_, ?_, ?_, bounded⟩
  · rw [left.key, account.key]
  · rw [left.drawn, account.drawn, bins_read_one]
  · rw [left.started, account.started, starts_one]
    split <;> simp
  · rw [left.snapshots, account.snapshots, snapshots_kept_one]
    split
    · rfl
    · exact (UInt32.ofNat_add _ _).symm
  · rw [left.cleared, account.cleared, snapshots_of_one]
    cases e.clears? <;> simp

theorem attempt_account (now : Instant) (call : Call) :
    Account key checked (told ++ ((s.attempt checked now call).1.map fun answer => (now, ⟨.api call, answer⟩)).toList)
      (s.attempt checked now call).2 := by
  have made := s.attempt_attempted checked now call
  generalize s.attempt checked now call = outcome at made
  cases made with
  | abandoned injection =>
      rw [Option.map_none, Option.toList_none, List.append_nil]
      exact ⟨account.key, account.drawn, account.started, account.snapshots, account.cleared, account.bounded⟩
  | refused injection code =>
      exact account_left key checked told s account now _ _ (s.refused_leaves now call code injection)
        (refused_bounded key checked told s account now call code)
  | done injection fits =>
      exact account_left key checked told s account now _ _ (s.done_leaves now call injection)
        fun enforced => done_bounded key checked told s account now call _ enforced (fits enforced)

end account

theorem reached_account (key : Noise.Key) (checked : Bool) (told : Answers) (s : SimulatedApi)
    (account : Account key checked told s) (past : List (Instant × Call)) :
    Account key checked (told ++ s.answers checked past) (s.reached checked past) := by
  induction past generalizing told s with
  | nil => exact (List.append_nil told).symm ▸ account
  | cons asked rest ih =>
      have next := attempt_account key checked told s account asked.1 asked.2
      rw [answers, ← List.append_assoc]
      exact ih _ _ next

theorem planned_account (checked : Bool) (channels : Nat) (seed : UInt64) (script : List Bool) (scenarios : List Scenario)
    (past : List (Instant × Call)) :
    let start := planned channels seed script scenarios
    Account (.ofSeed seed) checked (start.answers checked past) (start.reached checked past) := by
  intro start
  have new : Account (.ofSeed seed) checked [] start := ⟨rfl, rfl, rfl, rfl, rfl, fun _ => Nat.zero_lt_succ _⟩
  have account := reached_account _ checked [] start new past
  rwa [List.nil_append] at account

inductive Histogram (start : SimulatedApi) (checked : Bool) (past : List (Instant × Call)) (now : Instant) :
    Nat → Nat → Float → Array UInt32 → Prop where
  | run (channel length : Nat) (counts : Array UInt32)
      (answered : ((start.reached checked past).attempt checked now (.spectrum channel length)).1 = some (.ok counts)) :
      Histogram start checked past now (binsRead (start.answers checked past)) length
        (timedExposure (starts (start.answers checked past)) now) counts
  | snapshot (channel length : Nat) (counts : Array UInt32)
      (answered : ((start.reached checked past).attempt checked now (.snapshotSpectrum channel length)).1 =
        some (.ok counts)) :
      Histogram start checked past now (binsRead (start.answers checked past)) length
        (countedExposure checked (start.answers checked past)) counts

theorem value_performed (s : SimulatedApi) (checked : Bool) (now : Instant) (call : Call) (value : call.Value)
    (answered : (s.attempt checked now call).1 = some (.ok value)) :
    ∃ injection, value = ((s.logged call injection).perform now call).1 := by
  have made := s.attempt_attempted checked now call
  generalize s.attempt checked now call = outcome at made answered
  cases made with
  | abandoned | refused => cases answered
  | done injection => exact ⟨injection, (Except.ok.inj (Option.some.inj answered)).symm⟩

theorem spectrum_answered (s : SimulatedApi) (checked : Bool) (now : Instant) (channel length : Nat) (counts : Array UInt32)
    (answered : (s.attempt checked now (.spectrum channel length)).1 = some (.ok counts)) :
    counts = spectrumAt s.key s.drawn length (atLeast 1.0 (s.elapsed now)) := by
  obtain ⟨injection, performed⟩ := s.value_performed checked now (.spectrum channel length) counts answered
  exact performed

theorem snapshot_answered (s : SimulatedApi) (checked : Bool) (now : Instant) (channel length : Nat) (counts : Array UInt32)
    (answered : (s.attempt checked now (.snapshotSpectrum channel length)).1 = some (.ok counts)) :
    counts = spectrumAt s.key s.drawn length s.snapshotExposure := by
  obtain ⟨injection, performed⟩ := s.value_performed checked now (.snapshotSpectrum channel length) counts answered
  exact performed

theorem snapshot_admitted (s : SimulatedApi) (checked : Bool) (now : Instant) (channel length : Nat)
    (passes : (s.injection.attempt checked "snapshot_mca").1 = some (.ok ())) (known : channel < s.channels) :
    ∃ counts, (s.attempt checked now (.snapshotSpectrum channel length)).1 = some (.ok counts) := by
  rw [attempt, Call.operation, passes]
  simp [reaches, channelOf?, known, overflows]

section account
variable {key : Noise.Key} {checked : Bool} {told : Answers} {s : SimulatedApi} (account : Account key checked told s)
include account

theorem account_timed (now : Instant) : atLeast 1.0 (s.elapsed now) = timedExposure (starts told) now := by
  have unstarted : atLeast 1.0 0.0 = 1.0 := by decide +kernel
  rw [elapsed, timedExposure, account.started]
  cases (starts told).getLast? with
  | none => exact unstarted
  | some time => rfl

theorem account_counted : s.snapshotExposure = countedExposure checked told := by
  rw [snapshotExposure, countedExposure, account.cleared, account.snapshots, UInt32.toNat_ofNat']
  cases enforced : checked with
  | true => rw [if_pos rfl, Nat.mod_eq_of_lt (account.bounded enforced)]
  | false => rfl

end account

theorem histogram_drawn (checked : Bool) (channels : Nat) (seed : UInt64) (script : List Bool) (scenarios : List Scenario)
    (past : List (Instant × Call)) (now : Instant) (first length : Nat) (exposure : Float) (counts : Array UInt32)
    (read : (planned channels seed script scenarios).Histogram checked past now first length exposure counts) :
    counts = spectrumAt (.ofSeed seed) first length exposure := by
  have account := planned_account checked channels seed script scenarios past
  cases read with
  | run channel _ _ answered =>
      rw [spectrum_answered _ checked now channel length counts answered, account.key, account.drawn, account_timed account]
  | snapshot channel _ _ answered =>
      rw [snapshot_answered _ checked now channel length counts answered, account.key, account.drawn,
        account_counted account]

def drawsOf (call : Call) (answer : Option call.Answer) : Nat := answer.elim 0 fun told => Event.bins ⟨.api call, told⟩

theorem attempt_draws (s : SimulatedApi) (checked : Bool) (now : Instant) (call : Call) :
    (s.attempt checked now call).2.drawn = s.drawn + drawsOf call (s.attempt checked now call).1 := by
  have made := s.attempt_attempted checked now call
  generalize s.attempt checked now call = outcome at made
  cases made with
  | abandoned injection => rfl
  | refused injection code => exact (s.refused_leaves now call code injection).drawn
  | done injection => exact (s.done_leaves now call injection).drawn

end SimulatedApi
end PulseAnalyzer
