import PulseAnalyzer.Proofs.Simulator.LedPulser
import PulseAnalyzer.Proofs.Session.ShownWords

set_option autoImplicit false

namespace PulseAnalyzer
open Binary

theorem checked_word_ok_iff (q : Quantity) (name : String) (x : Float) (w : UInt16) :
    q.checkedWord name x = .ok w ↔ q.contains x = true ∧ q.raw x = w.toNat := by
  have within := w.toNat_lt
  rw [Quantity.checkedWord]
  cases q.contains x with
  | false => exact ⟨nofun, nofun⟩
  | true =>
      dsimp only
      rw [if_pos rfl]
      split
      case isTrue fits =>
        have back : (UInt16.ofNat (q.raw x).toNat).toNat = (q.raw x).toNat := by
          rw [UInt16.toNat_ofNat']
          omega
        constructor
        · rintro ⟨⟩
          exact ⟨rfl, by omega⟩
        · rintro ⟨-, same⟩
          rw [same, Int.toNat_natCast, UInt16.ofNat_toNat]
      case isFalse beyond =>
        exact ⟨nofun, fun ⟨_, same⟩ => absurd ⟨by omega, by omega⟩ beyond⟩

namespace Registers

def toggleWords (r : Registers) (s : Session) : Except Fault (UInt16 × UInt16) :=
  s.ledWords (if r.ledEnabled then 0 else 1) (s.calibration.ledPeriod.shown r.ledPeriod)
    (s.calibration.ledWidth.shown r.ledWidth)

theorem toggle_words_ok_iff (r : Registers) (s : Session) (period width : UInt16) :
    r.toggleWords s = .ok (period, width) ↔
      s.calibration.ledPeriod.checkedWord "led period" (s.calibration.ledPeriod.shown r.ledPeriod) = .ok period ∧
      s.calibration.ledWidth.checkedWord "led width" (s.calibration.ledWidth.shown r.ledWidth) = .ok width := by
  have flag : (if r.ledEnabled then 0 else 1) ≤ 1 := by cases r.ledEnabled <;> decide
  constructor
  · intro accepted
    rw [toggleWords, Session.ledWords, if_neg (Nat.not_lt.mpr flag)] at accepted
    rcases first : s.calibration.ledPeriod.checkedWord "led period" (s.calibration.ledPeriod.shown r.ledPeriod)
      with fault | p
    · rw [first] at accepted
      cases accepted
    · rcases second : s.calibration.ledWidth.checkedWord "led width" (s.calibration.ledWidth.shown r.ledWidth)
        with fault | w
      · rw [first, second] at accepted
        cases accepted
      · rw [first, second] at accepted
        cases accepted
        exact ⟨rfl, rfl⟩
  · rintro ⟨periodFits, widthFits⟩
    exact led_words_accepted s _ flag _ _ period width periodFits widthFits

-- Whether the words of the pulser are the nearest counts of what is shown of them.
def KeepsTiming (r : Registers) (s : Session) : Prop :=
  s.calibration.ledPeriod.Keeps r.ledPeriod ∧ s.calibration.ledWidth.Keeps r.ledWidth

theorem keeps_timing_iff (r : Registers) (s : Session) (period width : UInt16)
    (accepted : r.toggleWords s = .ok (period, width)) : r.KeepsTiming s ↔ period = r.ledPeriod ∧ width = r.ledWidth := by
  obtain ⟨periodFits, widthFits⟩ := (r.toggle_words_ok_iff s period width).mp accepted
  have first := ((checked_word_ok_iff _ _ _ period).mp periodFits).2
  have second := ((checked_word_ok_iff _ _ _ width).mp widthFits).2
  have same (a b : UInt16) : (a.toNat : Int) = b.toNat ↔ a = b := by rw [Int.natCast_inj, UInt16.toNat_inj]
  rw [KeepsTiming, Quantity.Keeps, Quantity.Keeps, first, second, same, same]

theorem toggle_words_again (r : Registers) (s : Session) (enabled : Bool)
    (accepted : r.toggleWords s = .ok (r.ledPeriod, r.ledWidth)) :
    (r.withLed enabled r.ledPeriod r.ledWidth).toggleWords s = .ok (r.ledPeriod, r.ledWidth) :=
  (toggle_words_ok_iff _ s _ _).mpr ((r.toggle_words_ok_iff s _ _).mp accepted)

end Registers

theorem toggle_led_answered (s : Session) (b : Bench) (l : SimulatedLink) (hosts : b.Hosts l) (channel : Nat)
    (known : channel < l.devices) :
    let r := l.registersOf channel
    (∃ fault c, r.toggleWords s = .error fault ∧ b.run (s.toggleLed channel) = (some (.error fault), c)) ∨
    (∃ period width c m, r.toggleWords s = .ok (period, width) ∧
      b.run (s.toggleLed channel) = (some (.ok ((r.withLed (!r.ledEnabled) period width).ledStatus s)), c) ∧
      c.Hosts m ∧ l.Exchanged m channel (r.withLed (!r.ledEnabled) period width)) := by
  intro r
  obtain ⟨m, reads, exchanged⟩ := l.read_led_plays s hosts.reached hosts.quiet channel known
  obtain ⟨c, hosted, -, read⟩ := reads b hosts
  have read : b.run (s.readLed channel) = (some (.ok (r.ledStatus s)), c) := read
  have ran : b.run (s.toggleLed channel) = c.run (s.setLed channel (if r.ledEnabled then 0 else 1)
      (s.calibration.ledPeriod.shown r.ledPeriod) (s.calibration.ledWidth.shown r.ledWidth)) := by
    rw [Session.toggleLed, b.run_bind, read]
    rfl
  rw [ran]
  rcases accepted : r.toggleWords s with fault | ⟨period, width⟩
  · refine .inl ⟨fault, c, rfl, ?_⟩
    unfold Registers.toggleWords at accepted
    rw [Session.setLed, c.run_bind, accepted]
    rfl
  · have flag : (if r.ledEnabled then 0 else 1) ≤ 1 := by cases r.ledEnabled <;> decide
    have flipped : decide ((if r.ledEnabled then 0 else 1) = 1) = !r.ledEnabled := by cases r.ledEnabled <;> rfl
    have reread : channel < m.devices := by
      rw [exchanged.devices]
      exact known
    obtain ⟨k, sets, programmed⟩ := set_led_plays s m hosted.reached hosted.quiet channel reread
      (if r.ledEnabled then 0 else 1) flag _ _ period width accepted
    obtain ⟨d, left, -, set⟩ := sets c hosted
    rw [exchanged.own, flipped] at programmed set
    exact .inr ⟨period, width, d, k, rfl, set, left, l.exchanged_trans m k channel r _ exchanged programmed⟩

theorem toggle_led_granted (s : Session) (b : Bench) (l : SimulatedLink) (hosts : b.Hosts l) (channel : Nat)
    (known : channel < l.devices) (period width : UInt16)
    (accepted : (l.registersOf channel).toggleWords s = .ok (period, width)) :
    let r := l.registersOf channel
    ∃ c m, b.run (s.toggleLed channel) = (some (.ok ((r.withLed (!r.ledEnabled) period width).ledStatus s)), c) ∧
      c.Hosts m ∧ l.Exchanged m channel (r.withLed (!r.ledEnabled) period width) := by
  intro r
  rcases toggle_led_answered s b l hosts channel known with
    ⟨fault, _, refused, -⟩ | ⟨_, _, c, m, granted, ran, hosted, exchanged⟩
  · cases accepted.symm.trans refused
  · cases accepted.symm.trans granted
    exact ⟨c, m, ran, hosted, exchanged⟩

theorem timing_kept_by_toggle (s : Session) (b : Bench) (l : SimulatedLink) (hosts : b.Hosts l) (channel : Nat)
    (known : channel < l.devices) (status : LedStatus) (c : Bench)
    (toggled : b.run (s.toggleLed channel) = (some (.ok status), c)) :
    let r := l.registersOf channel
    ((s.calibration.ledPeriod.Coarse ∧ s.calibration.ledWidth.Coarse) → r.KeepsTiming s) ∧
    ∃ m, c.Hosts m ∧ status = (m.registersOf channel).ledStatus s ∧
      (∀ other, other ≠ channel → m.registersOf other = l.registersOf other) ∧
      (∃ period width, m.registersOf channel = r.withLed (!r.ledEnabled) period width ∧
        s.calibration.ledPeriod.raw (s.calibration.ledPeriod.shown r.ledPeriod) = period.toNat ∧
        s.calibration.ledWidth.raw (s.calibration.ledWidth.shown r.ledWidth) = width.toNat) ∧
      (m.registersOf channel = r.withLed (!r.ledEnabled) r.ledPeriod r.ledWidth ↔ r.KeepsTiming s) ∧
      (r.KeepsTiming s → ∃ again d k, c.run (s.toggleLed channel) = (some (.ok again), d) ∧ d.Hosts k ∧
        ∀ device, k.registersOf device = l.registersOf device) := by
  intro r
  refine ⟨fun ⟨periodWide, widthWide⟩ => ⟨Quantity.coarse_keeps _ periodWide _, Quantity.coarse_keeps _ widthWide _⟩, ?_⟩
  rcases toggle_led_answered s b l hosts channel known with
    ⟨fault, d, -, ran⟩ | ⟨period, width, d, m, accepted, ran, hosted, exchanged⟩
  · cases toggled.symm.trans ran
  cases toggled.symm.trans ran
  obtain ⟨periodFits, widthFits⟩ := (r.toggle_words_ok_iff s period width).mp accepted
  have kept := r.keeps_timing_iff s period width accepted
  have own : m.registersOf channel = r.withLed (!r.ledEnabled) period width := exchanged.own
  refine ⟨m, hosted, by rw [own], exchanged.others, ⟨period, width, own, ?_, ?_⟩, ?_, fun keeps => ?_⟩
  · exact ((checked_word_ok_iff _ _ _ period).mp periodFits).2
  · exact ((checked_word_ok_iff _ _ _ width).mp widthFits).2
  · rw [own, kept]
    constructor
    · intro same
      exact ⟨congrArg Registers.ledPeriod same, congrArg Registers.ledWidth same⟩
    · rintro ⟨rfl, rfl⟩
      rfl
  · obtain ⟨rfl, rfl⟩ := kept.mp keeps
    have again := r.toggle_words_again s (!r.ledEnabled) accepted
    have reread : channel < m.devices := by
      rw [exchanged.devices]
      exact known
    rw [← own] at again
    obtain ⟨d, k, second, left, returned⟩ := toggle_led_granted s c m hosted channel reread _ _ again
    rw [own] at returned
    refine ⟨_, d, k, second, left, fun device => ?_⟩
    by_cases same : device = channel
    · rw [same, returned.own]
      change { r with ledEnabled := !(!r.ledEnabled) } = r
      rw [Bool.not_not]
    · rw [returned.others device same, exchanged.others device same]

theorem standard_timing_kept :
    let l := (SimulatedLink.make 2).setRegisters 1 ⟨0x0C80, 31, 0x50, true, 1235, 77⟩
    let b := Bench.make (.make 2 0) (.simulated l)
    let s : Session := ⟨.standard, []⟩
    b.Hosts l ∧ 1 < l.devices ∧ s.calibration.ledPeriod.Coarse ∧ s.calibration.ledWidth.Coarse ∧
    ∃ (status : LedStatus) (c : Bench) (m : SimulatedLink), b.run (s.toggleLed 1) = (some (.ok status), c) ∧ c.Hosts m ∧
      m.registersOf 1 = ⟨0x0C80, 31, 0x50, false, 1235, 77⟩ ∧
      ∃ again d k, c.run (s.toggleLed 1) = (some (.ok again), d) ∧ d.Hosts k ∧
        ∀ device, k.registersOf device = l.registersOf device := by
  intro l b s
  have hosts : b.Hosts l := ⟨rfl, rfl, .registers _ _ _ (.make 2), ⟨rfl, rfl⟩⟩
  have known : 1 < l.devices := by decide
  have periodWide : s.calibration.ledPeriod.Coarse := Calibration.standard_period_coarse
  have widthWide : s.calibration.ledWidth.Coarse := Calibration.standard_width_coarse
  have periodFits : Calibration.standard.ledPeriod.checkedWord "led period"
      (Calibration.standard.ledPeriod.shown 1235) = .ok 1235 := by
    rw [Quantity.shown_hundredths, checked_word_ok_iff]
    decide +kernel
  have widthFits : Calibration.standard.ledWidth.checkedWord "led width"
      (Calibration.standard.ledWidth.shown 77) = .ok 77 := by
    rw [Quantity.shown_hundredths, checked_word_ok_iff]
    decide +kernel
  have accepted : (l.registersOf 1).toggleWords s = .ok (1235, 77) :=
    (Registers.toggle_words_ok_iff _ s _ _).mpr ⟨periodFits, widthFits⟩
  obtain ⟨c, -, ran, -, -⟩ := toggle_led_granted s b l hosts 1 known _ _ accepted
  obtain ⟨kept, m, hosted, -, -, -, restores, returns⟩ := timing_kept_by_toggle s b l hosts 1 known _ c ran
  have keeps := kept ⟨periodWide, widthWide⟩
  exact ⟨hosts, known, periodWide, widthWide, _, c, m, ran, hosted, restores.mpr keeps, returns keeps⟩

-- With a step of a thousandth the last digit of the period is not shown, so it is gone after the toggle.
theorem fine_period_lost :
    let fine : Calibration := { Calibration.standard with ledPeriod := ⟨0.0, 1000.0, 0.0, 0.001, "us"⟩ }
    let l := (SimulatedLink.make 1).setRegisters 0 ⟨0x0C80, 31, 0x50, false, 1234, 10⟩
    let b := Bench.make (.make 1 0) (.simulated l)
    let s : Session := ⟨fine, []⟩
    fine.validate = .ok () ∧ b.Hosts l ∧ 0 < l.devices ∧ l.registersOf 0 = ⟨0x0C80, 31, 0x50, false, 1234, 10⟩ ∧
    ∃ (status : LedStatus) (c : Bench) (m : SimulatedLink), b.run (s.toggleLed 0) = (some (.ok status), c) ∧ c.Hosts m ∧
      m.registersOf 0 = ⟨0x0C80, 31, 0x50, true, 1230, 10⟩ := by
  intro fine l b s
  have hosts : b.Hosts l := ⟨rfl, rfl, .registers _ _ _ (.make 1), ⟨rfl, rfl⟩⟩
  have known : 0 < l.devices := by decide
  have periodFits : Quantity.checkedWord ⟨0.0, 1000.0, 0.0, 0.001, "us"⟩ "led period"
      (Quantity.shown ⟨0.0, 1000.0, 0.0, 0.001, "us"⟩ 1234) = .ok 1230 := by
    rw [Quantity.shown_hundredths, checked_word_ok_iff]
    decide +kernel
  have widthFits : Calibration.standard.ledWidth.checkedWord "led width"
      (Calibration.standard.ledWidth.shown 10) = .ok 10 := by
    rw [Quantity.shown_hundredths, checked_word_ok_iff]
    decide +kernel
  have accepted : (l.registersOf 0).toggleWords s = .ok (1230, 10) :=
    (Registers.toggle_words_ok_iff _ s _ _).mpr ⟨periodFits, widthFits⟩
  have valid : Calibration.validate { Calibration.standard with ledPeriod := ⟨0.0, 1000.0, 0.0, 0.001, "us"⟩ } = .ok () := by
    rfl
  obtain ⟨c, m, ran, hosted, exchanged⟩ := toggle_led_granted s b l hosts 0 known _ _ accepted
  exact ⟨valid, hosts, known, rfl, _, c, m, ran, hosted, exchanged.own⟩

end PulseAnalyzer
