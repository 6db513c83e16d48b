import PulseAnalyzer.Device.Session
import PulseAnalyzer.Proofs.Device.Descriptors
import PulseAnalyzer.Proofs.Program.Recital

set_option autoImplicit false

namespace PulseAnalyzer

namespace Session

structure Descriptors where
  board : Bytes
  serial : Bytes

structure Descriptors.Whole (raw : Descriptors) : Prop where
  board : 26 ≤ raw.board.length
  serial : 17 ≤ raw.serial.length

def readings : Nat → List Descriptors → List Event
  | _, [] => []
  | channel, raw :: rest =>
    ⟨.api (.boardInfo channel), .ok raw.board⟩ :: ⟨.api (.serialNumber channel), .ok raw.serial⟩ ::
      readings (channel + 1) rest

inductive Stops (channel : Nat) : List Event → Fault → Prop where
  | boardRefused (code : Int) :
      Stops channel [⟨.api (.boardInfo channel), .error code⟩] (.device "get_board_info" code)
  | boardShort (raw : Bytes) (short : raw.length < 26) :
      Stops channel [⟨.api (.boardInfo channel), .ok raw⟩] (.length 26 raw.length)
  | serialRefused (raw : Bytes) (whole : 26 ≤ raw.length) (code : Int) :
      Stops channel [⟨.api (.boardInfo channel), .ok raw⟩, ⟨.api (.serialNumber channel), .error code⟩]
        (.device "get_serial_number" code)
  | serialShort (raw serial : Bytes) (whole : 26 ≤ raw.length) (short : serial.length < 17) :
      Stops channel [⟨.api (.boardInfo channel), .ok raw⟩, ⟨.api (.serialNumber channel), .ok serial⟩]
        (.length 17 serial.length)

structure Holds (channel : Nat) (raw : Descriptors) (m : Module) : Prop where
  whole : raw.Whole
  channel : m.channel = channel
  board : Board.decode raw.board = .ok m.board
  serial : SerialNumber.decode raw.serial = .ok m.serial

inductive Filled : Nat → List Descriptors → List Module → Prop where
  | nil (channel : Nat) : Filled channel [] []
  | cons (channel : Nat) (raw : Descriptors) (m : Module) (raws : List Descriptors) (modules : List Module)
      (holds : Holds channel raw m) (later : Filled (channel + 1) raws modules) :
      Filled channel (raw :: raws) (m :: modules)

inductive ModuleRead (channel : Nat) : List Event → Except Fault Module → Prop where
  | held (raw : Descriptors) (m : Module) (holds : Holds channel raw m) :
      ModuleRead channel (readings channel [raw]) (.ok m)
  | stopped (events : List Event) (fault : Fault) (stops : Stops channel events fault) :
      ModuleRead channel events (.error fault)

inductive ModulesRead (channel count : Nat) : List Event → Except Fault (List Module) → Prop where
  | filled (raws : List Descriptors) (modules : List Module) (every : raws.length = count)
      (filled : Filled channel raws modules) : ModulesRead channel count (readings channel raws) (.ok modules)
  | stopped (raws : List Descriptors) (last : List Event) (fault : Fault) (whole : ∀ raw ∈ raws, raw.Whole)
      (fewer : raws.length < count) (stops : Stops (channel + raws.length) last fault) :
      ModulesRead channel count (readings channel raws ++ last) (.error fault)

inductive Opened (calibration : Calibration) (channels : Nat) : List Event → Except Fault Session → Prop where
  | invalid (fault : Fault) (refused : calibration.validate = .error fault) :
      Opened calibration channels [] (.error fault)
  | stopped (valid : calibration.validate = .ok ()) (raws : List Descriptors) (last : List Event) (fault : Fault)
      (whole : ∀ raw ∈ raws, raw.Whole) (fewer : raws.length < channels) (stops : Stops raws.length last fault) :
      Opened calibration channels (readings 0 raws ++ last) (.error fault)
  | opened (valid : calibration.validate = .ok ()) (raws : List Descriptors) (modules : List Module)
      (every : raws.length = channels) (filled : Filled 0 raws modules) :
      Opened calibration channels (readings 0 raws) (.ok ⟨calibration, modules⟩)

section opening
open Procedure (Ends ends_pure ends_bind ends_of_except traced_api_bind)

theorem read_module_ends (channel : Nat) : Ends (readModule channel) (ModuleRead channel) := by
  intro events result traced
  rcases (traced_api_bind (.boardInfo channel) _ events result).mp traced with ⟨raw, rest, after, rfl⟩ | ⟨code, rfl, rfl⟩
  · rcases Board.decode_cases raw with ⟨short, decoded⟩ | ⟨whole, board, decoded⟩
    · rw [decoded] at after
      obtain ⟨rfl, rfl⟩ := (Program.traced_done _ rest result).mp after
      exact ⟨_, rfl, .stopped _ _ (.boardShort raw short)⟩
    · rw [decoded] at after
      rcases (traced_api_bind (.serialNumber channel) _ rest result).mp after with
        ⟨text, last, named, rfl⟩ | ⟨code, rfl, rfl⟩
      · rcases SerialNumber.decode_cases text with ⟨short, failed⟩ | ⟨long, serial, read⟩
        · rw [failed] at named
          obtain ⟨rfl, rfl⟩ := (Program.traced_done _ last result).mp named
          exact ⟨_, rfl, .stopped _ _ (.serialShort raw text whole short)⟩
        · rw [read] at named
          obtain ⟨rfl, rfl⟩ := (Program.traced_done _ last result).mp named
          exact ⟨_, rfl, .held ⟨raw, text⟩ ⟨channel, board, serial⟩ ⟨⟨whole, long⟩, rfl, decoded, read⟩⟩
      · exact ⟨_, rfl, .stopped _ _ (.serialRefused raw whole code)⟩
  · exact ⟨_, rfl, .stopped _ _ (.boardRefused code)⟩

theorem read_modules_ends (count channel : Nat) :
    Ends (readModules (List.range' channel count)) (ModulesRead channel count) := by
  induction count generalizing channel with
  | zero => exact ends_pure [] _ (.filled [] [] rfl (.nil channel))
  | succ count ih =>
      refine ends_bind (readModule channel) _ _ _ (read_module_ends channel) (fun before m read => ?_)
        fun events fault read => ?_
      · cases read with
        | held raw m holds =>
            refine ends_bind _ _ _ _ (ih (channel + 1)) (fun later rest read => ?_) fun events fault read => ?_
            · cases read with
              | filled raws rest every filled =>
                  have whole := ModulesRead.filled (raw :: raws) (m :: rest) (congrArg (· + 1) every)
                    (.cons channel raw m raws rest holds filled)
                  exact ends_pure _ _ (by simpa [readings] using whole)
            · cases read with
              -- The channel that fails is counted from the one after this.
              | stopped raws last fault whole fewer stops =>
                  have there : channel + (raw :: raws).length = channel + 1 + raws.length := by
                    rw [List.length_cons]
                    omega
                  exact ModulesRead.stopped (raw :: raws) last fault (List.forall_mem_cons.mpr ⟨holds.whole, whole⟩)
                    (Nat.succ_lt_succ fewer) (there ▸ stops)
      · cases read with
        | stopped events fault stops => exact ModulesRead.stopped [] events fault nofun (Nat.succ_pos count) stops

theorem start_ends (calibration : Calibration) (channels : Nat) :
    Ends (start calibration channels) (Opened calibration channels) := by
  have begun : Ends (Procedure.ofExcept calibration.validate) fun events outcome =>
      events = [] ∧ outcome = calibration.validate := ends_of_except _ _ ⟨rfl, rfl⟩
  have read := read_modules_ends channels 0
  rw [← List.range_eq_range'] at read
  refine ends_bind _ _ _ _ begun (fun before value checked => ?_) fun events fault refused => ?_
  · obtain ⟨rfl, valid⟩ := checked
    refine ends_bind _ _ _ _ read (fun events modules done => ?_) fun events fault failed => ?_
    · cases done with
      | filled raws modules every filled =>
          have opened := Opened.opened valid.symm raws modules every filled
          exact ends_pure _ _ (by simpa using opened)
    · cases failed with
      | stopped raws last fault whole fewer stops =>
          exact .stopped valid.symm raws last fault whole fewer (Nat.zero_add raws.length ▸ stops)
  · obtain ⟨rfl, refused⟩ := refused
    exact .invalid fault refused.symm

end opening

theorem filled_channels (channel : Nat) (raws : List Descriptors) (modules : List Module)
    (filled : Filled channel raws modules) :
    modules.map Module.channel = List.range' channel raws.length := by
  induction filled with
  | nil channel => rfl
  | cons channel raw m raws modules holds _ ih =>
      rw [List.map_cons, holds.channel, ih, List.length_cons, List.range'_succ]

theorem filled_each (channel : Nat) (raws : List Descriptors) (modules : List Module)
    (filled : Filled channel raws modules) (i : Nat) (within : i < raws.length) :
    ∃ raw m, modules[i]? = some m ∧ Holds (channel + i) raw m ∧
      (⟨.api (.boardInfo (channel + i)), .ok raw.board⟩ : Event) ∈ readings channel raws ∧
      (⟨.api (.serialNumber (channel + i)), .ok raw.serial⟩ : Event) ∈ readings channel raws := by
  induction filled generalizing i with
  | nil channel => cases within
  | cons channel raw m raws modules holds _ ih =>
      cases i with
      | zero => exact ⟨raw, m, rfl, holds, by simp [readings], by simp [readings]⟩
      | succ i =>
          obtain ⟨later, n, found, held, board, serial⟩ := ih i (Nat.lt_of_succ_lt_succ within)
          rw [Nat.add_right_comm, Nat.add_assoc] at held board serial
          exact ⟨later, n, found, held, by simp [readings, board], by simp [readings, serial]⟩

theorem opened_channels (calibration : Calibration) (n : Nat) (events : List Event) (s : Session)
    (opened : Opened calibration n events (.ok s)) : s.channels = List.range n := by
  cases opened with
  | opened valid raws modules every filled =>
      rw [← every, List.range_eq_range']
      exact filled_channels 0 raws modules filled

theorem opened_each (calibration : Calibration) (n : Nat) (events : List Event) (s : Session)
    (opened : Opened calibration n events (.ok s)) (i : Nat) (within : i < n) :
    ∃ raw m, s.modules[i]? = some m ∧ Holds i raw m ∧ (⟨.api (.boardInfo i), .ok raw.board⟩ : Event) ∈ events ∧
      (⟨.api (.serialNumber i), .ok raw.serial⟩ : Event) ∈ events := by
  cases opened with
  | opened valid raws modules every filled =>
      have each := filled_each 0 raws modules filled i (every ▸ within)
      rw [Nat.zero_add] at each
      exact each

section channels
variable (s : Session) (n : Nat) (every : s.channels = List.range n)
include every

theorem module_count : s.modules.length = n := by
  have counted := congrArg List.length every
  simpa [channels] using counted

theorem select_channels (index : Int) :
    s.select index = if 0 ≤ index ∧ index < n then [index.toNat] else List.range n := by
  rw [select, s.module_count n every, every]

theorem select_for_run_beyond (index : Int) (beyond : n ≤ index) :
    s.selectForRun index = .error (.range (.channel index.toNat n)) := by
  have absent : s.modules[index.toNat]? = none := by
    rw [List.getElem?_eq_none_iff, s.module_count n every]
    omega
  rw [selectForRun, if_neg (by omega), module, absent, s.module_count n every]
  rfl

theorem select_for_run_within (index : Int) (within : index < n) :
    ∃ target, s.selectForRun index = .ok (s.select index, target) ∧ (target = .all ↔ index < 0) ∧
      target.number = max index (-1) := by
  rw [s.select_channels n every, selectForRun]
  by_cases all : index < 0
  · have other : ¬ (0 ≤ index ∧ index < n) := by omega
    refine ⟨.all, ?_, iff_of_true rfl all, ?_⟩
    · rw [if_pos all, if_neg other, every]
    · simp only [Target.number]
      omega
  · have here : index.toNat < s.modules.length := by
      rw [s.module_count n every]
      omega
    refine ⟨.channel index.toNat, ?_, iff_of_false nofun all, ?_⟩
    · rw [if_neg all, if_pos ⟨by omega, within⟩, module, List.getElem?_eq_getElem here]
      rfl
    · simp only [Target.number]
      omega

theorem selected_within (index : Int) (channel : Nat) (selected : channel ∈ s.select index) : channel < n := by
  rw [s.select_channels n every] at selected
  split at selected
  · cases List.mem_singleton.mp selected
    omega
  · exact List.mem_range.mp selected

theorem module_beyond (channel : Nat) (beyond : n ≤ channel) :
    s.module channel = .error (.range (.channel channel n)) := by
  have absent : s.modules[channel]? = none := by
    rw [List.getElem?_eq_none_iff, s.module_count n every]
    exact beyond
  rw [module, absent, s.module_count n every]

end channels

theorem session_opened (calibration : Calibration) (n : Nat) {σ : Type} (answer : (r : Request) → σ → r.Answer × σ)
    (surroundings : σ) :
    let ended := (Program.run answer (start calibration n).run surroundings).1
    let events := Program.history answer (start calibration n).run surroundings
    (∃ outcome, ended = some outcome ∧ Opened calibration n events outcome) ∧
    ∀ s, ended = some (.ok s) →
      (∀ i < n, ∃ raw m, s.modules[i]? = some m ∧ Holds i raw m ∧
        (⟨.api (.boardInfo i), .ok raw.board⟩ : Event) ∈ events ∧
        (⟨.api (.serialNumber i), .ok raw.serial⟩ : Event) ∈ events) ∧
      s.channels = List.range n ∧
      (∀ index : Int,
        s.select index = (if 0 ≤ index ∧ index < n then [index.toNat] else List.range n) ∧
        (n ≤ index → s.selectForRun index = .error (.range (.channel index.toNat n))) ∧
        (index < n → ∃ target, s.selectForRun index = .ok (s.select index, target) ∧
          (target = .all ↔ index < 0) ∧ target.number = max index (-1)) ∧
        (∀ channel ∈ s.select index, ∃ m, s.modules[channel]? = some m ∧
          (s.module channel).map Module.board = .ok m.board ∧ (s.module channel).map Module.serial = .ok m.serial)) ∧
      (∀ channel, n ≤ channel →
        (s.module channel).map Module.board = .error (.range (.channel channel n)) ∧
        (s.module channel).map Module.serial = .error (.range (.channel channel n))) := by
  intro ended events
  obtain ⟨outcome, same, opened⟩ := Procedure.ends_run answer _ surroundings _ (start_ends calibration n)
  refine ⟨⟨outcome, same, opened⟩, fun s success => ?_⟩
  have open_session : Opened calibration n events (.ok s) := by
    cases Option.some.inj (same.symm.trans success)
    exact opened
  have each := opened_each calibration n events s open_session
  have every := opened_channels calibration n events s open_session
  refine ⟨each, every, fun index => ⟨s.select_channels n every index, s.select_for_run_beyond n every index,
    s.select_for_run_within n every index, fun channel selected => ?_⟩, fun channel beyond => ?_⟩
  · obtain ⟨raw, m, found, -⟩ := each channel (s.selected_within n every index channel selected)
    exact ⟨m, found, by rw [module, found]; rfl, by rw [module, found]; rfl⟩
  · rw [s.module_beyond n every channel beyond]
    exact ⟨rfl, rfl⟩

-- A device on which each channel tells one byte less of its board than the one before; that of the fourth is too short.
def waningApi : (r : Request) → Unit → r.Answer × Unit
  | .api (.boardInfo channel), s => (.ok (List.replicate (28 - channel) 7), s)
  | .api (.serialNumber _), s => (.ok (List.replicate 17 65), s)
  | r, s => (r.silence, s)

theorem fourth_module_short :
    (∃ s, (Program.run waningApi (start .standard 3).run ()).1 = some (.ok s) ∧ s.select 1 = [1] ∧
      s.select 3 = [0, 1, 2] ∧
      s.selectForRun 3 = .error (.range (.channel 3 3)) ∧
      (∃ target, s.selectForRun (-3) = .ok (s.select (-3), target) ∧ target.number = -1) ∧
      (s.module 3).map Module.board = .error (.range (.channel 3 3))) ∧
    Opened .standard 4 (Program.history waningApi (start .standard 4).run ()) (.error (.length 26 25)) := by
  have answered : (Program.run waningApi (start .standard 3).run ()).1.map Except.isOk = some true := by decide
  have refused : (Program.run waningApi (start .standard 4).run ()).1 = some (.error (.length 26 25)) := rfl
  obtain ⟨⟨outcome, ended, -⟩, opens⟩ := session_opened .standard 3 waningApi ()
  obtain ⟨⟨failure, failed, opened⟩, -⟩ := session_opened .standard 4 waningApi ()
  rw [Option.some.inj (failed.symm.trans refused)] at opened
  rw [ended] at answered
  cases outcome with
  | error fault => cases answered
  | ok s =>
      obtain ⟨-, -, chosen, beyond⟩ := opens s ended
      obtain ⟨target, runs, -, number⟩ := (chosen (-3)).2.2.1 (by decide)
      have board := (beyond 3 (by decide)).1
      exact ⟨⟨s, ended, (chosen 1).1, (chosen 3).1, (chosen 3).2.1 (by decide), ⟨target, runs, number⟩, board⟩, opened⟩

end Session
end PulseAnalyzer
