import PulseAnalyzer.Proofs.Simulator.Peripherals

set_option autoImplicit false

namespace PulseAnalyzer

namespace Session

inductive Operation where
  | readValue (channel : Nat) (name : String)
  | writeValue (channel : Nat) (name : String) (value : Float)
  | setVolts (channel : Nat) (volts : Float)
  | readVolts (channel : Nat)
  | readTemperature (channel : Nat)
  | readLed (channel : Nat)
  | setLed (channel enable : Nat) (periodMicros widthNanos : Float)
  | toggleLed (channel : Nat)
  | raw (channel : Nat) (opcode : UInt8) (arguments : List Argument) (size : Nat)

@[reducible]
def Operation.Value : Operation → Type
  | .readLed _ | .setLed _ _ _ _ | .toggleLed _ => LedStatus
  | .raw _ _ _ _ => Bytes
  | _ => Float

def perform (s : Session) : (o : Operation) → Procedure o.Value
  | .readValue channel name => s.readValue channel name
  | .writeValue channel name value => s.writeValue channel name value
  | .setVolts channel volts => s.setVolts channel volts
  | .readVolts channel => s.readVolts channel
  | .readTemperature channel => readTemperature channel
  | .readLed channel => s.readLed channel
  | .setLed channel enable periodMicros widthNanos => s.setLed channel enable periodMicros widthNanos
  | .toggleLed channel => s.toggleLed channel
  | .raw channel opcode arguments size => raw channel opcode arguments size

-- What writes the words of the pulser of a channel that has this status. A change that is refused for
-- its values is not sent.
def SetsLed (s : Session) (channel : Nat) (led : LedStatus) : Operation → Prop
  | .setLed device enable periodMicros widthNanos =>
      device = channel ∧ ∃ words, s.ledWords enable periodMicros widthNanos = .ok words
  | .toggleLed device =>
      device = channel ∧ ∃ words, s.ledWords (if led.enabled then 0 else 1) led.periodMicros led.widthNanos = .ok words
  | .raw device opcode arguments _ =>
      device = channel ∧ (∀ a ∈ arguments, a.Fits) ∧ opcode = opcodeLed ∧
        Registers.Writing (arguments.flatMap Argument.bytes)
  | _ => False

end Session

def Bench.performed (b : Bench) (s : Session) (operations : List Session.Operation) : Bench :=
  operations.foldl (fun b o => (b.run (s.perform o)).2) b

structure SimulatedLink.Holds (l : SimulatedLink) (channel : Nat) (r : Registers) : Prop where
  known : channel < l.devices
  own : l.registersOf channel = r

theorem request_unfit (b : Bench) (device : Nat) (opcode : UInt8) (arguments : List Argument)
    (unfit : ¬ ∀ a ∈ arguments, a.Fits) (sends size : Nat) :
    ∃ fault, b.run (Session.request device opcode arguments sends size) = (some (.error fault), b) := by
  rcases appended : (Command.start device opcode).appendAll arguments with fault | c
  · refine ⟨fault, ?_⟩
    rw [Session.request, appended]
    rfl
  · exact absurd ((Command.append_all_ok_iff _ _ _ rfl).mp appended).1 unfit

def Keeps (channel : Nat) (r : Registers) {α : Type} (p : Procedure α) (told : α → Prop) : Prop :=
  ∀ (b : Bench) (l : SimulatedLink), b.Hosts l → l.Holds channel r →
    ∃ m, (b.run p).2.Hosts m ∧ m.Holds channel r ∧ ∀ value, (b.run p).1 = some (.ok value) → told value

section keeping
variable {channel : Nat} {r : Registers} (s : Session)

theorem keeps_of_except {α : Type} (outcome : Except Fault α) :
    Keeps channel r (Procedure.ofExcept outcome) fun value => outcome = .ok value :=
  fun _ l hosts holds => ⟨l, hosts, holds, fun _ same => Option.some.inj same⟩

theorem keeps_pure {α : Type} (value : α) : Keeps channel r (pure value) fun _ => True :=
  fun _ l hosts holds => ⟨l, hosts, holds, fun _ _ => trivial⟩

theorem keeps_api (call : Acquisition.Call) : Keeps channel r (Procedure.api call) fun _ => True :=
  fun b l hosts holds => ⟨l, unasked_hosts b l hosts (.api call) nofun, holds, fun _ _ => trivial⟩

theorem keeps_tells {α : Type} (p : Procedure α) (told later : α → Prop) (keeps : Keeps channel r p told)
    (tells : ∀ value, told value → later value) : Keeps channel r p later := by
  intro b l hosts holds
  obtain ⟨m, hosted, held, known⟩ := keeps b l hosts holds
  exact ⟨m, hosted, held, fun value got => tells value (known value got)⟩

theorem keeps_weaken {α : Type} (p : Procedure α) (told : α → Prop) (keeps : Keeps channel r p told) :
    Keeps channel r p fun _ => True :=
  keeps_tells p told _ keeps fun _ _ => trivial

theorem keeps_bind {α β : Type} (p : Procedure α) (f : α → Procedure β) (told : α → Prop) (later : β → Prop)
    (first : Keeps channel r p told) (rest : ∀ value, told value → Keeps channel r (f value) later) :
    Keeps channel r (p >>= f) later := by
  intro b l hosts holds
  obtain ⟨m, hosted, held, tells⟩ := first b l hosts holds
  rw [b.run_bind p f]
  rcases ran : b.run p with ⟨outcome, c⟩
  rw [ran] at hosted tells
  cases outcome with
  | none => exact ⟨m, hosted, held, nofun⟩
  | some result =>
      cases result with
      | error fault => exact ⟨m, hosted, held, nofun⟩
      | ok value => exact rest value (tells value rfl) c m hosted held

-- An exchange with another device does not touch the registers, and one with the same device only
-- tells them unless it writes the words of the pulser.
theorem keeps_request (device : Nat) (opcode : UInt8) (arguments : List Argument) (again size : Nat)
    (spares : ¬ (device = channel ∧ (∀ a ∈ arguments, a.Fits) ∧ opcode = opcodeLed ∧
      Registers.Writing (arguments.flatMap Argument.bytes))) :
    Keeps channel r (Session.request device opcode arguments (again + 1) size) fun payload =>
      device = channel →
        Response.payload (SimulatedLink.resize (r.response opcode (arguments.flatMap Argument.bytes)) size) =
          .ok payload := by
  intro b l hosts holds
  by_cases fit : ∀ a ∈ arguments, a.Fits
  · by_cases known : device < l.devices
    · obtain ⟨m, plays, exchanged⟩ :=
        l.request_plays hosts.reached hosts.quiet device known opcode arguments fit again size
      obtain ⟨c, hosted, -, ran⟩ := plays b hosts
      have came : b.run (Session.request device opcode arguments (again + 1) size) = _ := ran
      have count : channel < m.devices := by
        rw [exchanged.devices]
        exact holds.known
      rw [came]
      by_cases same : device = channel
      · subst same
        have unwritten : (l.registersOf device).after opcode (arguments.flatMap Argument.bytes) = r := by
          rw [Registers.after_unwritten _ _ _ fun writes => spares ⟨rfl, fit, writes⟩]
          exact holds.own
        have own := exchanged.own
        rw [unwritten] at own ⊢
        exact ⟨m, hosted, ⟨count, own⟩, fun payload got _ => Option.some.inj got⟩
      · have own := exchanged.others channel (Ne.symm same)
        exact ⟨m, hosted, ⟨count, own.trans holds.own⟩, fun payload got here => absurd here same⟩
    · have unknown := Nat.le_of_not_lt known
      obtain ⟨c, hosted, -, ran⟩ := l.request_unknown hosts.quiet device unknown opcode arguments fit again size b hosts
      have came : b.run (Session.request device opcode arguments (again + 1) size) = _ := ran
      rw [came]
      exact ⟨l.passed "open", hosted, ⟨holds.known, holds.own⟩, nofun⟩
  · obtain ⟨fault, came⟩ := request_unfit b device opcode arguments fit (again + 1) size
    rw [came]
    exact ⟨l, hosts, holds, nofun⟩

theorem keeps_read_value (device : Nat) (name : String) : Keeps channel r (s.readValue device name) fun _ => True := by
  refine keeps_bind _ _ _ _ (keeps_api _) fun value _ => ?_
  exact keeps_pure _

theorem keeps_write_value (device : Nat) (name : String) (value : Float) :
    Keeps channel r (s.writeValue device name value) fun _ => True := by
  refine keeps_bind _ _ _ _ (keeps_of_except _) fun raw _ => ?_
  refine keeps_bind _ _ _ _ (keeps_api _) fun _ _ => ?_
  exact keeps_read_value s device _

theorem keeps_read_volts (device : Nat) : Keeps channel r (s.readVolts device) fun _ => True := by
  have spares : ¬ (opcodeVolts = opcodeLed) := by decide
  refine keeps_bind _ _ _ _ (keeps_request device _ _ 1 _ fun writes => spares writes.2.2.1) fun payload _ => ?_
  refine keeps_bind _ _ _ _ (keeps_of_except _) fun raw _ => ?_
  exact keeps_pure _

theorem keeps_read_temperature (device : Nat) : Keeps channel r (Session.readTemperature device) fun _ => True := by
  have spares : ¬ (opcodeTemperature = opcodeLed) := by decide
  refine keeps_bind _ _ _ _ (keeps_request device _ _ 0 _ fun writes => spares writes.2.2.1) fun payload _ => ?_
  exact keeps_weaken _ _ (keeps_of_except _)

theorem keeps_read_led (device : Nat) :
    Keeps channel r (s.readLed device) fun status => device = channel → status = r.ledStatus s := by
  have spares : ¬ Registers.Writing ([Session.wordArg 1, Session.byteArg 1].flatMap Argument.bytes) := by decide
  have whole := SimulatedLink.response_whole r opcodeLed ([Session.wordArg 1, Session.byteArg 1].flatMap Argument.bytes)
    r.ledPayload rfl
  have accepted := SimulatedLink.payload_encoded opcodeLed r.ledPayload (by simp [Registers.ledPayload])
  refine keeps_bind _ _ _ _ (keeps_request device _ _ 0 _ fun writes => spares writes.2.2.2)
    fun payload came => ?_
  refine keeps_tells _ _ _ (keeps_of_except _) fun status decoded same => ?_
  have served : (Except.ok r.ledPayload : Except Fault Bytes) = .ok payload := by
    rw [← accepted, ← whole]
    exact came same
  cases served
  rw [r.led_of_payload s] at decoded
  exact (Except.ok.inj decoded).symm

theorem keeps_set_led (device enable : Nat) (periodMicros widthNanos : Float)
    (spares : ¬ (device = channel ∧ ∃ words, s.ledWords enable periodMicros widthNanos = .ok words)) :
    Keeps channel r (s.setLed device enable periodMicros widthNanos) fun _ => True := by
  refine keeps_bind _ _ _ _ (keeps_of_except _) fun words accepted => ?_
  refine keeps_bind _ _ _ _ (keeps_request device _ _ 0 _ fun writes => ?_) fun payload _ => ?_
  · exact spares ⟨writes.1, words, accepted⟩
  · exact keeps_weaken _ _ (keeps_of_except _)

theorem keeps_toggle_led (device : Nat) (spares : ¬ s.SetsLed channel (r.ledStatus s) (.toggleLed device)) :
    Keeps channel r (s.toggleLed device) fun _ => True := by
  refine keeps_bind _ _ _ _ (keeps_read_led s device) fun current told => ?_
  refine keeps_set_led s device _ _ _ fun ⟨same, accepted⟩ => ?_
  rw [told same] at accepted
  exact spares ⟨same, accepted⟩

theorem keeps_operation (o : Session.Operation) (spares : ¬ s.SetsLed channel (r.ledStatus s) o) :
    Keeps channel r (s.perform o) fun _ => True := by
  cases o with
  | readValue device name => exact keeps_read_value s device name
  | writeValue device name value => exact keeps_write_value s device name value
  | setVolts device volts => exact keeps_write_value s device highVoltageName volts
  | readVolts device => exact keeps_read_volts s device
  | readTemperature device => exact keeps_read_temperature device
  | readLed device => exact keeps_weaken _ _ (keeps_read_led s device)
  | setLed device enable periodMicros widthNanos => exact keeps_set_led s device enable _ _ spares
  | toggleLed device => exact keeps_toggle_led s device spares
  | raw device opcode arguments size =>
      exact keeps_weaken _ _ (keeps_request device opcode arguments 0 size spares)

theorem performed_holds (operations : List Session.Operation) (b : Bench) (l : SimulatedLink) (hosts : b.Hosts l)
    (holds : l.Holds channel r) (spares : ∀ o ∈ operations, ¬ s.SetsLed channel (r.ledStatus s) o) :
    ∃ m, (b.performed s operations).Hosts m ∧ m.Holds channel r := by
  induction operations generalizing b l with
  | nil => exact ⟨l, hosts, holds⟩
  | cons o rest ih =>
      obtain ⟨m, hosted, held, -⟩ := keeps_operation s o (spares o List.mem_cons_self) b l hosts holds
      exact ih _ m hosted held fun later member => spares later (List.mem_cons_of_mem o member)

end keeping

namespace Registers

def withLed (r : Registers) (enabled : Bool) (period width : UInt16) : Registers :=
  { r with ledEnabled := enabled, ledPeriod := period, ledWidth := width }

theorem program_set (r : Registers) (enable : Nat) (flag : enable ≤ 1) (period width : UInt16) :
    r.after opcodeLed (6 :: 0 :: 0 :: UInt8.ofNat enable :: (wordBytes period ++ wordBytes width)) =
      r.withLed (decide (enable = 1)) period width := by
  have enabled : decide (UInt8.ofNat enable ≠ 0) = decide (enable = 1) := by
    rcases Nat.le_one_iff_eq_zero_or_eq_one.mp flag with rfl | rfl <;> rfl
  have first := word_of_bytes period
  have second := word_of_bytes width
  change { r with ledEnabled := decide (UInt8.ofNat enable ≠ 0), ledPeriod := _, ledWidth := _ } = _
  rw [enabled, first, second, withLed]

end Registers

def ledArguments (enable : Nat) (period width : UInt16) : List Argument :=
  [Session.wordArg 6, Session.byteArg 0, Session.byteArg enable, Session.wordArg period.toNat, Session.wordArg width.toNat]

theorem led_arguments_fit (enable : Nat) (flag : enable ≤ 1) (period width : UInt16) :
    ∀ a ∈ ledArguments enable period width, a.Fits := by
  have first := period.toNat_lt
  have second := width.toNat_lt
  simp [ledArguments, Argument.Fits, Session.wordArg, Session.byteArg, ArgumentKind.maxValue]
  omega

theorem led_arguments_bytes (enable : Nat) (period width : UInt16) :
    (ledArguments enable period width).flatMap Argument.bytes =
      6 :: 0 :: 0 :: UInt8.ofNat enable :: (wordBytes period ++ wordBytes width) := by
  simp [ledArguments, Argument.bytes, Session.wordArg, Session.byteArg, wordBytes]

theorem led_words_accepted (s : Session) (enable : Nat) (flag : enable ≤ 1) (periodMicros widthNanos : Float)
    (period width : UInt16) (periodFits : s.calibration.ledPeriod.checkedWord "led period" periodMicros = .ok period)
    (widthFits : s.calibration.ledWidth.checkedWord "led width" widthNanos = .ok width) :
    s.ledWords enable periodMicros widthNanos = .ok (period, width) := by
  rw [Session.ledWords, if_neg (Nat.not_lt.mpr flag), periodFits, widthFits]
  rfl

theorem set_led_plays (s : Session) (l : SimulatedLink) (reached : l.Reached) (quiet : l.Quiet) (device : Nat)
    (known : device < l.devices) (enable : Nat) (flag : enable ≤ 1) (periodMicros widthNanos : Float)
    (period width : UInt16) (accepted : s.ledWords enable periodMicros widthNanos = .ok (period, width)) :
    let r := (l.registersOf device).withLed (decide (enable = 1)) period width
    ∃ m, l.Plays (s.setLed device enable periodMicros widthNanos).run
        (SimulatedLink.answered device l.nextHandle 0xC0
          (6 :: 0 :: 0 :: UInt8.ofNat enable :: (wordBytes period ++ wordBytes width)) 1 r.ledPayload)
        (.ok (r.ledStatus s)) m ∧ l.Exchanged m device r := by
  intro r
  have bytes := led_arguments_bytes enable period width
  have after : (l.registersOf device).after opcodeLed ((ledArguments enable period width).flatMap Argument.bytes) = r := by
    rw [bytes]
    exact Registers.program_set _ enable flag period width
  obtain ⟨m, plays, exchanged⟩ := l.request_answered reached quiet device known opcodeLed
    (ledArguments enable period width) (led_arguments_fit enable flag period width) 0 r after r.ledPayload rfl
    (by simp [Registers.ledPayload])
  rw [bytes] at plays
  have told := SimulatedLink.decoded_plays l m _ (fun payload => Procedure.ofExcept (s.ledOf payload)) _ _ _ plays
    (congrArg Program.done (r.led_of_payload s))
  refine ⟨m, ?_, exchanged⟩
  rw [Session.setLed, accepted]
  exact told

theorem set_led_lasts (s : Session) (b : Bench) (l : SimulatedLink) (hosts : b.Hosts l) (channel : Nat)
    (known : channel < l.devices) (enable : Nat) (flag : enable ≤ 1) (periodMicros widthNanos : Float)
    (period width : UInt16) (periodFits : s.calibration.ledPeriod.checkedWord "led period" periodMicros = .ok period)
    (widthFits : s.calibration.ledWidth.checkedWord "led width" widthNanos = .ok width) :
    let status : LedStatus :=
      ⟨0, decide (enable = 1), s.calibration.periodMicros period, s.calibration.widthNanos width⟩
    ∃ c m, b.run (s.setLed channel enable periodMicros widthNanos) = (some (.ok status), c) ∧ c.Hosts m ∧
      m.registersOf channel =
        { l.registersOf channel with ledEnabled := decide (enable = 1), ledPeriod := period, ledWidth := width } ∧
      (∀ other, other ≠ channel → m.registersOf other = l.registersOf other) ∧
      ∀ meanwhile : List Session.Operation, (∀ o ∈ meanwhile, ¬ s.SetsLed channel status o) →
        ((c.performed s meanwhile).run (s.readLed channel)).1 = some (.ok status) := by
  intro status
  have accepted := led_words_accepted s enable flag periodMicros widthNanos period width periodFits widthFits
  obtain ⟨m, plays, exchanged⟩ := set_led_plays s l hosts.reached hosts.quiet channel known enable flag periodMicros
    widthNanos period width accepted
  obtain ⟨c, hosted, -, ran⟩ := plays b hosts
  have held : m.Holds channel ((l.registersOf channel).withLed (decide (enable = 1)) period width) := by
    refine ⟨?_, exchanged.own⟩
    rw [exchanged.devices]
    exact known
  refine ⟨c, m, ran, hosted, exchanged.own, exchanged.others, fun meanwhile spares => ?_⟩
  obtain ⟨k, left, kept⟩ := performed_holds s meanwhile c m hosted held spares
  obtain ⟨j, reads, -⟩ := k.read_led_plays s left.reached left.quiet channel kept.known
  obtain ⟨d, -, -, read⟩ := reads _ left
  rw [kept.own] at read
  exact congrArg Prod.fst read

theorem second_pulser_lasts :
    let l := SimulatedLink.make 2
    let b := Bench.make (.make 2 0) (.simulated l)
    let s : Session := ⟨.standard, []⟩
    let status : LedStatus := ⟨0, true, s.calibration.periodMicros 5000, s.calibration.widthNanos 5⟩
    let meanwhile : List Session.Operation :=
      [.readVolts 1, .toggleLed 0, .raw 1 0xC0 [⟨.word, 1⟩, ⟨.byte, 1⟩] 11, .setLed 1 2 100.0 50.0,
        .readTemperature 7]
    b.Hosts l ∧ 1 < l.devices ∧ Calibration.standard.ledPeriod.checkedWord "led period" 250.0 = .ok 5000 ∧
    Calibration.standard.ledWidth.checkedWord "led width" 25.0 = .ok 5 ∧ (∀ o ∈ meanwhile, ¬ s.SetsLed 1 status o) ∧
    ∃ (c : Bench) (m : SimulatedLink), b.run (s.setLed 1 1 250.0 25.0) = (some (.ok status), c) ∧
      m.registersOf 0 = .standard ∧ m.registersOf 1 = ⟨0x0C80, 31, 0x50, true, 5000, 5⟩ ∧
      ((c.performed s meanwhile).run (s.readLed 1)).1 = some (.ok status) := by
  intro l b s status meanwhile
  have hosts : b.Hosts l := ⟨rfl, rfl, .make 2, ⟨rfl, rfl⟩⟩
  have known : 1 < l.devices := by decide
  have periodFits : Calibration.standard.ledPeriod.checkedWord "led period" 250.0 = .ok 5000 := by rfl
  have widthFits : Calibration.standard.ledWidth.checkedWord "led width" 25.0 = .ok 5 := by rfl
  have spares : ∀ o ∈ meanwhile, ¬ s.SetsLed 1 status o := by
    have refused : ∀ words, s.ledWords 2 100.0 50.0 ≠ .ok words := nofun
    have unwritten : ¬ Registers.Writing ([(⟨.word, 1⟩ : Argument), ⟨.byte, 1⟩].flatMap Argument.bytes) := by decide
    intro o member
    simp only [meanwhile, List.mem_cons, List.not_mem_nil, or_false] at member
    rcases member with rfl | rfl | rfl | rfl | rfl
    · exact id
    · exact fun ⟨other, _⟩ => absurd other (by decide)
    · exact fun ⟨_, _, _, writing⟩ => unwritten writing
    · exact fun ⟨_, words, accepted⟩ => refused words accepted
    · exact id
  obtain ⟨c, m, ran, -, own, others, lasts⟩ :=
    set_led_lasts s b l hosts 1 known 1 (by decide) 250.0 25.0 5000 5 periodFits widthFits
  exact ⟨hosts, known, periodFits, widthFits, spares, c, m, ran, others 0 (by decide), own, lasts meanwhile spares⟩

end PulseAnalyzer
